import TwinQuery.Proofs.Session.Executing

/-!
# What a transaction owes to its work

A transaction runs its work once, between a statement that opens it and what closes it. The
work is any action of a session: it may execute texts, use any runner, close the transaction
itself and open others. `Runner.transaction_contract` says for all of them how the transaction
ends, what it sends after the work, and that it leaves nothing open.
-/

namespace TwinQuery.Runner

open SessionM

variable {σ ε α : Type}

/-! ## The contract -/

/-- What rolling back makes of `session`, whether the service accepts it or not. A transaction
that is open is given up by one call; where none is open, nothing is sent. -/
structure RollsBack (runner : Runner) (session after : Session σ) : Prop where
  calls : after.calls = session.calls ++
    if session.status runner = .inTransaction then [queryCall "ROLLBACK"] else []
  status : after.status =
    if session.status runner = .inTransaction then
      (session.withStatus runner .rolledBack).status
    else session.status

section Contract

variable [Service σ]

/-- How a transaction ends once its work has: `worked` is what the work came to and `ended` what
the transaction comes to. -/
structure Closes (runner : Runner) (ofError : Error → ε)
    (worked ended : Except ε α × Session σ) : Prop where
  /-- Nothing is open afterwards. -/
  closed : ended.2.status runner ≠ .inTransaction
  /-- Failed work is rolled back, and its own failure is raised. -/
  failed : ∀ failure, worked.1 = .error failure →
    ended.1 = .error failure ∧ RollsBack runner worked.2 ended.2
  /-- The value of the work is returned exactly when committing it is accepted. -/
  returned_iff : ∀ value, worked.1 = .ok value →
    (ended.1 = .ok value ↔
      worked.2.status runner = .inTransaction ∧ ∃ rows, worked.2.answer "COMMIT" = .ok rows)
  /-- An accepted commit is the last call. -/
  committed : ∀ value, worked.1 = .ok value → worked.2.status runner = .inTransaction →
    ∀ rows, worked.2.answer "COMMIT" = .ok rows →
      ended.2.calls = worked.2.calls ++ [queryCall "COMMIT"] ∧
      ended.2.status = (worked.2.withStatus runner .committed).status
  /-- A refused commit is followed by one attempt to roll back, and its failure is raised. -/
  commitRefused : ∀ value, worked.1 = .ok value → worked.2.status runner = .inTransaction →
    ∀ error, worked.2.answer "COMMIT" = .error error →
      ended.1 = .error (ofError error) ∧
      ended.2.calls = worked.2.calls ++ [queryCall "COMMIT", queryCall "ROLLBACK"] ∧
      ended.2.status = (worked.2.withStatus runner .rolledBack).status
  /-- Work that closed the transaction itself left nothing to commit, and nothing is sent. -/
  alreadyClosed : ∀ value, worked.1 = .ok value → worked.2.status runner ≠ .inTransaction →
    ended.1 = .error (ofError .noActiveTransaction) ∧
    ended.2.calls = worked.2.calls ∧ ended.2.status = worked.2.status

/-- What a transaction of a runner does to a session, whatever its work does. -/
structure TransactionContract (runner : Runner) (ofError : Error → ε) (work : SessionT ε σ α)
    (session : Session σ) : Prop where
  /-- Where one is open, a second one is refused and nothing happens. -/
  active : session.status runner = .inTransaction →
    runner.transaction ofError work session = (.error (ofError .transactionActive), session)
  /-- When opening it is refused, that failure is raised, the statuses are what they were and
  the work is not run: any other work would have come to the same. -/
  refused : session.status runner ≠ .inTransaction →
    ∀ error, session.answer "BEGIN TRANSACTION" = .error error →
      (runner.transaction ofError work session).1 = .error (ofError error) ∧
      (runner.transaction ofError work session).2.calls =
        session.calls ++ [queryCall "BEGIN TRANSACTION"] ∧
      (runner.transaction ofError work session).2.status = session.status ∧
      ∀ other : SessionT ε σ α,
        runner.transaction ofError other session = runner.transaction ofError work session
  /-- Otherwise the work is run once, where opening the transaction has led, and what it came to
  decides how the transaction is closed. -/
  opened : session.status runner ≠ .inTransaction →
    ∀ rows, session.answer "BEGIN TRANSACTION" = .ok rows →
      (runner.begin session).2.calls = session.calls ++ [queryCall "BEGIN TRANSACTION"] ∧
      (runner.begin session).2.status = (session.withStatus runner .inTransaction).status ∧
      Closes runner ofError (work (runner.begin session).2)
        (runner.transaction ofError work session)

end Contract

/-! ## Rolling back -/

namespace RollsBack

variable {runner : Runner} {session after : Session σ}

/-- Nothing is open after rolling back. -/
theorem closed (hback : RollsBack runner session after) :
    after.status runner ≠ .inTransaction := by
  rw [hback.status]
  by_cases hopen : session.status runner = .inTransaction
  · rw [if_pos hopen, Session.withStatus_self]
    decide
  · rw [if_neg hopen]
    exact hopen

/-- Rolling back an open transaction is one call, and it is closed after it. -/
theorem of_open (hback : RollsBack runner session after)
    (hopen : session.status runner = .inTransaction) :
    after.calls = session.calls ++ [queryCall "ROLLBACK"] ∧
      after.status = (session.withStatus runner .rolledBack).status := by
  have hcalls := hback.calls
  have hstatus := hback.status
  rw [if_pos hopen] at hcalls hstatus
  exact ⟨hcalls, hstatus⟩

/-- Rolling back where no transaction is open changes nothing. -/
theorem of_not_open (hback : RollsBack runner session after)
    (hclosed : session.status runner ≠ .inTransaction) :
    after.calls = session.calls ∧ after.status = session.status := by
  have hcalls := hback.calls
  have hstatus := hback.status
  rw [if_neg hclosed] at hcalls hstatus
  exact ⟨hcalls.trans (List.append_nil _), hstatus⟩

end RollsBack

variable [Service σ]

/-- This is what the rollback of a runner does, whether or not the service accepts it. -/
theorem rollsBack_rollback (runner : Runner) (session : Session σ) :
    RollsBack runner session (runner.rollback session).2 := by
  by_cases hopen : session.status runner = .inTransaction
  · rw [rollback_of_open hopen]
    refine ⟨by simp [hopen], ?_⟩
    rw [if_pos hopen]
    rfl
  · rw [rollback_of_not_open hopen]
    exact ⟨by rw [if_neg hopen, List.append_nil], by rw [if_neg hopen]⟩

/-! ## Closing what the work left -/

section Finish

variable (ofError : Error → ε) {runner : Runner} {session after : Session σ}

/-- Work that failed is rolled back, and its failure is raised however that ends. -/
theorem finish_of_failed (runner : Runner) (failure : ε) (session : Session σ) :
    ∃ ended, (runner.finish ofError (.error failure) : SessionT ε σ α) session =
      (.error failure, ended) ∧ RollsBack runner session ended := by
  have hback := rollsBack_rollback runner session
  unfold finish
  dsimp only
  rw [bind_of_ok (outcome_apply runner.rollback session)]
  cases (runner.rollback session).1 with
  | ok value => exact ⟨_, rfl, hback⟩
  | error error =>
      exact ⟨_, bind_of_ok (note_apply (.rollbackFailed error) _), hback.calls, hback.status⟩

theorem finish_of_committed {value : α} (hcommit : runner.commit session = (.ok (), after)) :
    (runner.finish ofError (.ok value) : SessionT ε σ α) session = (.ok value, after) := by
  unfold finish
  dsimp only
  rw [bind_of_ok (outcome_apply runner.commit session), hcommit]
  rfl

/-- When committing fails, rolling back is tried, and the first failure is raised however that
ends. -/
theorem finish_of_commit_failed {error : Error}
    (hcommit : runner.commit session = (.error error, after)) (value : α) :
    ∃ ended, (runner.finish ofError (.ok value) : SessionT ε σ α) session =
      (.error (ofError error), ended) ∧ RollsBack runner after ended := by
  -- the refused commit is noted first, which changes neither calls nor statuses
  have hback := rollsBack_rollback runner (after.noted (.commitFailed error))
  unfold finish
  dsimp only
  rw [bind_of_ok (outcome_apply runner.commit session), hcommit]
  dsimp only
  rw [bind_of_ok (note_apply _ after), bind_of_ok (outcome_apply runner.rollback _)]
  cases (runner.rollback (after.noted (.commitFailed error))).1 with
  | ok value => exact ⟨_, rfl, hback.calls, hback.status⟩
  | error second =>
      exact ⟨_, bind_of_ok (note_apply (.rollbackAfterCommitFailed second) _), hback.calls,
        hback.status⟩

/-- Work that failed is rolled back, and its own failure is raised. -/
theorem closes_of_failed (failure : ε) (session : Session σ) :
    Closes runner ofError ((.error failure, session) : Except ε α × Session σ)
      (runner.finish ofError (.error failure) session) := by
  obtain ⟨ended, hfinish, hback⟩ :=
    finish_of_failed (α := α) ofError runner failure session
  rw [hfinish]
  exact
    { closed := hback.closed
      failed := by
        rintro _ ⟨⟩
        exact ⟨rfl, hback⟩
      returned_iff := nofun
      committed := nofun
      commitRefused := nofun
      alreadyClosed := nofun }

/-- Work that closed the transaction itself leaves nothing to commit: the block fails. -/
theorem closes_of_not_open (value : α) (hclosed : session.status runner ≠ .inTransaction) :
    Closes runner ofError (.ok value, session) (runner.finish ofError (.ok value) session) := by
  obtain ⟨ended, hfinish, hback⟩ :=
    finish_of_commit_failed ofError (commit_of_not_open hclosed) value
  obtain ⟨hcalls, hstatus⟩ := hback.of_not_open hclosed
  rw [hfinish]
  exact
    { closed := hback.closed
      failed := nofun
      returned_iff := fun _ _ => ⟨nofun, fun hopen => absurd hopen.1 hclosed⟩
      committed := fun _ _ hopen => absurd hopen hclosed
      commitRefused := fun _ _ hopen => absurd hopen hclosed
      alreadyClosed := fun _ _ _ => ⟨rfl, hcalls, hstatus⟩ }

/-- Work that succeeded is committed, and its value is returned. -/
theorem closes_of_accepted (value : α) (hopen : session.status runner = .inTransaction)
    {rows : Response.Rows} (hanswer : session.answer "COMMIT" = .ok rows) :
    Closes runner ofError (.ok value, session) (runner.finish ofError (.ok value) session) := by
  have hcommit := commit_of_open hopen
  rw [hanswer] at hcommit
  rw [finish_of_committed ofError hcommit]
  exact
    { closed := by
        rw [Session.withStatus_self]
        decide
      failed := nofun
      returned_iff := fun _ hvalue => ⟨fun _ => ⟨hopen, rows, hanswer⟩, fun _ => hvalue⟩
      committed := fun _ _ _ _ _ => ⟨rfl, rfl⟩
      commitRefused := fun _ _ _ error herror => by
        rw [hanswer] at herror
        cases herror
      alreadyClosed := fun _ _ hclosed => absurd hopen hclosed }

/-- A commit that the service refuses is followed by a rollback, and its failure is raised. -/
theorem closes_of_refused (value : α) (hopen : session.status runner = .inTransaction)
    {error : Error} (hanswer : session.answer "COMMIT" = .error error) :
    Closes runner ofError (.ok value, session) (runner.finish ofError (.ok value) session) := by
  have hcommit := commit_of_open hopen
  rw [hanswer] at hcommit
  obtain ⟨ended, hfinish, hback⟩ := finish_of_commit_failed ofError hcommit value
  obtain ⟨hcalls, hstatus⟩ := hback.of_open hopen
  rw [Session.calls_executed, Session.calls_noted, List.append_assoc] at hcalls
  rw [hfinish]
  exact
    { closed := hback.closed
      failed := nofun
      returned_iff := fun _ _ => by
        refine ⟨nofun, ?_⟩
        rintro ⟨_, rows, hrows⟩
        rw [hanswer] at hrows
        cases hrows
      committed := fun _ _ _ rows hrows => by
        rw [hanswer] at hrows
        cases hrows
      commitRefused := fun _ _ _ second hsecond => by
        cases hanswer.symm.trans hsecond
        exact ⟨rfl, hcalls, hstatus⟩
      alreadyClosed := fun _ _ hclosed => absurd hopen hclosed }

/-- However the work ended, closing the transaction closes it. -/
theorem finish_closes (runner : Runner) (ofError : Error → ε)
    (worked : Except ε α × Session σ) :
    Closes runner ofError worked (runner.finish ofError worked.1 worked.2) := by
  obtain ⟨result, session⟩ := worked
  cases result with
  | error failure => exact closes_of_failed ofError failure session
  | ok value =>
      by_cases hopen : session.status runner = .inTransaction
      · cases hanswer : session.answer "COMMIT" with
        | ok rows => exact closes_of_accepted ofError value hopen hanswer
        | error error => exact closes_of_refused ofError value hopen hanswer
      · exact closes_of_not_open ofError value hopen

end Finish

/-! ## The transaction -/

section Transaction

variable (ofError : Error → ε) {runner : Runner} {session opened : Session σ}

/-- Where no transaction can be opened the work is not begun. -/
theorem transaction_of_not_begun {error : Error}
    (hbegin : runner.begin session = (.error error, opened)) (work : SessionT ε σ α) :
    runner.transaction ofError work session = (.error (ofError error), opened) := by
  unfold transaction
  rw [bind_of_ok (outcome_apply runner.begin session), hbegin]
  rfl

theorem transaction_of_begun (hbegin : runner.begin session = (.ok (), opened))
    (work : SessionT ε σ α) :
    runner.transaction ofError work session =
      runner.finish ofError (work opened).1 (work opened).2 := by
  unfold transaction
  rw [bind_of_ok (outcome_apply runner.begin session), hbegin]
  dsimp only
  rw [bind_of_ok (outcome_apply work opened)]

/-- Whatever the work of a transaction does and whatever the service answers: a second
transaction is refused, one that cannot be opened leaves everything as it was, and one that was
opened is closed when it ends. Failed work is rolled back and raises its own failure, and work
that succeeded returns its value exactly when it is committed. -/
theorem transaction_contract (runner : Runner) (ofError : Error → ε) (work : SessionT ε σ α)
    (session : Session σ) : TransactionContract runner ofError work session := by
  constructor
  case active =>
    intro hopen
    exact transaction_of_not_begun ofError (begin_of_open hopen) work
  case refused =>
    intro hclosed error hanswer
    have hbegin := begin_of_not_open hclosed
    rw [hanswer] at hbegin
    have hrefused := transaction_of_not_begun ofError hbegin work
    refine ⟨?_, ?_, ?_, fun other => ?_⟩
    · rw [hrefused]
    · rw [hrefused]
      simp
    · rw [hrefused]
      simp
    · rw [hrefused, transaction_of_not_begun ofError hbegin other]
  case opened =>
    intro hclosed rows hanswer
    have hbegin := begin_of_not_open hclosed
    rw [hanswer] at hbegin
    rw [transaction_of_begun ofError hbegin work, hbegin]
    exact ⟨rfl, rfl, finish_closes runner ofError _⟩

/-- The state of a service that refuses one text and accepts every other call. -/
structure Refusing (sql : String) where

instance (sql : String) : Service (Refusing sql) where
  respond state call :=
    let text? := (call.body?.bind (Json.field? "query")).bind Json.string?
    { result := if text? = some sql then .error (.http 500 sql)
        else .ok (.object [("success", .bool true)])
      state }

/-- Work that opens a transaction inside the transaction, in vain, and goes on. -/
def nesting (runner : Runner) : SessionM (Refusing "COMMIT") Nat := do
  let _ ← outcome (ε := Error) (runner.transaction id (pure () : SessionM _ Unit))
  let _ ← execute "DELETE FROM \"sessions\""
  return 100

theorem transaction_contract_nesting :
    let runner : Runner := ⟨0⟩
    let ended := runner.transaction id (nesting runner) { service := ⟨⟩ }
    ended.1 = .error (.http 500 "COMMIT") ∧
      ended.2.calls = ["BEGIN TRANSACTION", "DELETE FROM \"sessions\"", "COMMIT", "ROLLBACK"].map
        queryCall := by
  intro runner ended
  have hcontract := transaction_contract runner id (nesting runner) { service := ⟨⟩ }
  obtain ⟨_, _, hcloses⟩ := hcontract.opened (by decide) _ rfl
  obtain ⟨hraised, hcalls, _⟩ := hcloses.commitRefused 100 rfl rfl _ rfl
  exact ⟨hraised, hcalls⟩

end Transaction

end TwinQuery.Runner
