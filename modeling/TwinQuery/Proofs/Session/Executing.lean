import TwinQuery.Proofs.Session.Running

/-!
# Texts and the transaction calls

What becomes of a text depends on the state of the service alone. Executing it makes one call,
and each call that opens or closes a transaction executes one text when the status of its
runner fits and does nothing otherwise.
-/

namespace TwinQuery

variable {σ : Type}

namespace Session

def noted (session : Session σ) (event : Event) : Session σ :=
  { session with events := session.events ++ [event] }

def withStatus (session : Session σ) (runner : Runner) (status : TransactionStatus) :
    Session σ :=
  { session with status := fun other => if other = runner then status else session.status other }

@[simp] theorem withStatus_self (session : Session σ) (runner : Runner)
    (status : TransactionStatus) : (session.withStatus runner status).status runner = status :=
  if_pos rfl

@[simp] theorem calls_withStatus (session : Session σ) (runner : Runner)
    (status : TransactionStatus) : (session.withStatus runner status).calls = session.calls :=
  rfl

@[simp] theorem calls_noted (session : Session σ) (event : Event) :
    (session.noted event).calls = session.calls := rfl

@[simp] theorem status_noted (session : Session σ) (event : Event) :
    (session.noted event).status = session.status := rfl

/-- Going away from a status and back leaves the statuses as they were. -/
theorem withStatus_withStatus_self (session : Session σ) (runner : Runner)
    (status : TransactionStatus) :
    ((session.withStatus runner status).withStatus runner (session.status runner)) = session := by
  have hstatus : (fun other => if other = runner then session.status runner
      else (session.withStatus runner status).status other) = session.status := by
    funext other
    by_cases hother : other = runner
    · rw [if_pos hother, hother]
    · rw [if_neg hother]
      exact if_neg hother
  unfold withStatus at hstatus ⊢
  rw [hstatus]

section Answer

variable [Service σ]

/-- What executing a text gives where the session stands: the rows, or the failure of the call
or the failure that the answer reports. -/
def answer (session : Session σ) (sql : String) : Except Error Response.Rows := do
  let reply := Service.respond session.service (queryCall sql)
  (← Response.Rows.ofJson (← reply.result)).checked

def ending (sql : String) : Except Error Response.Rows → Event
  | .ok rows => .completed rows.rows.length rows.rowsAffected?
  | .error error => .failed error sql

def executed (session : Session σ) (sql : String) (parameters : Nat) : Session σ :=
  let reply := Service.respond session.service (queryCall sql)
  { session with
    service := reply.state
    calls := session.calls ++ [queryCall sql]
    events := session.events ++ [.executing (.ofSql sql) parameters sql] ++ reply.events ++
      [ending sql (session.answer sql)] }

@[simp] theorem calls_executed (session : Session σ) (sql : String) (parameters : Nat) :
    (session.executed sql parameters).calls = session.calls ++ [queryCall sql] := rfl

@[simp] theorem status_executed (session : Session σ) (sql : String) (parameters : Nat) :
    (session.executed sql parameters).status = session.status := rfl

@[simp] theorem answer_noted (session : Session σ) (event : Event) (sql : String) :
    (session.noted event).answer sql = session.answer sql := rfl

@[simp] theorem answer_withStatus (session : Session σ) (runner : Runner)
    (status : TransactionStatus) (sql : String) :
    (session.withStatus runner status).answer sql = session.answer sql := rfl

end Answer

end Session

open SessionM

theorem SessionM.note_apply {ε : Type} (event : Event) (session : Session σ) :
    (note event : SessionT ε σ Unit) session = (.ok (), session.noted event) := rfl

theorem Runner.setStatus_apply {ε : Type} (runner : Runner) (status : TransactionStatus)
    (session : Session σ) :
    (runner.setStatus status : SessionT ε σ Unit) session =
      (.ok (), session.withStatus runner status) := rfl

theorem Runner.currentStatus_apply {ε : Type} (runner : Runner) (session : Session σ) :
    (runner.currentStatus : SessionT ε σ TransactionStatus) session =
      (.ok (session.status runner), session) := rfl

namespace Runner

variable {runner : Runner} {session : Session σ}

theorem requireTransaction_of_open (hopen : session.status runner = .inTransaction) :
    runner.requireTransaction session = (.ok (), session) := by
  unfold requireTransaction
  rw [bind_of_ok (currentStatus_apply runner session), if_neg (not_not_intro hopen)]
  rfl

/-- Outside a transaction the call is refused, and the session stays as it was. -/
theorem requireTransaction_of_not_open (hclosed : session.status runner ≠ .inTransaction) :
    runner.requireTransaction session = (.error .noActiveTransaction, session) := by
  unfold requireTransaction
  rw [bind_of_ok (currentStatus_apply runner session), if_pos hclosed]
  rfl

end Runner

variable [Service σ]

/-- A call after an event, and what is read out of the answer. -/
theorem ask_apply {α : Type} (event : Event) (call : Call) (read : Json → Except Error α)
    (session : Session σ) :
    (do note event; let answer ← send call; read answer : SessionM σ α) session =
      ((Service.respond session.service call).result.bind read,
        (send call (session.noted event)).2) := by
  rw [bind_of_ok (note_apply event session)]
  exact bind_apply read (fun _ _ => rfl) _

/-- A blank text is refused before anything is noted or sent. -/
theorem execute_of_blank {sql : String} (hblank : Text.isBlankText sql = true)
    (parameters : List Scalar) (session : Session σ) :
    execute sql parameters session = (.error (.emptyStatement "empty query text"), session) := by
  unfold execute
  rw [if_pos hblank]
  rfl

/-- Executing a text that is not blank makes one call and ends as the service answers it. -/
theorem execute_of_not_blank {sql : String} (hblank : Text.isBlankText sql ≠ true)
    (parameters : List Scalar) (session : Session σ) :
    execute sql parameters session =
      (session.answer sql, session.executed sql parameters.length) := by
  unfold execute
  rw [if_neg hblank]
  change (note _ >>= _) session = _
  rw [bind_of_ok (note_apply _ session), bind_of_ok (outcome_apply _ _)]
  -- what the text is matched on now is the answer, spelled out
  change (match session.answer sql with
    | .ok rows => do
        note (.completed rows.rows.length rows.rowsAffected?)
        return rows
    | .error error => do
        note (.failed error sql)
        throw error : SessionM σ Response.Rows) _ = _
  unfold Session.executed
  cases session.answer sql with
  | ok rows => rfl
  | error error => rfl

namespace Runner

variable {runner : Runner} {session : Session σ}

/-- A transaction is not opened inside another one of the same runner. -/
theorem begin_of_open (hopen : session.status runner = .inTransaction) :
    runner.begin session = (.error .transactionActive, session) := by
  unfold begin
  rw [bind_of_ok (currentStatus_apply runner session), if_pos hopen]
  rfl

/-- A transaction is opened when the service accepts that; otherwise the statuses are what they
were. -/
theorem begin_of_not_open (hclosed : session.status runner ≠ .inTransaction) :
    runner.begin session =
      match session.answer "BEGIN TRANSACTION" with
      | .ok _ =>
          (.ok (), ((session.noted .beginning).executed "BEGIN TRANSACTION" 0).withStatus runner
            .inTransaction)
      | .error error =>
          (.error error, (session.noted .beginning).executed "BEGIN TRANSACTION" 0) := by
  unfold begin
  rw [bind_of_ok (currentStatus_apply runner session), if_neg hclosed]
  change (runner.setStatus _ >>= _) session = _
  rw [bind_of_ok (setStatus_apply runner _ session), bind_of_ok (note_apply _ _),
    bind_of_ok (outcome_apply _ _), execute_of_not_blank (by decide)]
  simp only [Session.answer_noted, Session.answer_withStatus]
  cases session.answer "BEGIN TRANSACTION" with
  | ok rows => rfl
  | error error =>
      -- the status was set before the text was sent, and is set back
      apply (bind_of_ok (setStatus_apply runner _ _)).trans
      exact congrArg (Except.error error, ·) (Session.withStatus_withStatus_self
        ((session.noted .beginning).executed "BEGIN TRANSACTION" 0) runner .inTransaction)

theorem commit_of_not_open (hclosed : session.status runner ≠ .inTransaction) :
    runner.commit session = (.error .noActiveTransaction, session) :=
  bind_of_error (requireTransaction_of_not_open hclosed)

/-- A transaction is closed when the service accepts that; otherwise it stays open. -/
theorem commit_of_open (hopen : session.status runner = .inTransaction) :
    runner.commit session =
      match session.answer "COMMIT" with
      | .ok _ =>
          (.ok (), ((session.noted .committing).executed "COMMIT" 0).withStatus runner .committed)
      | .error error => (.error error, (session.noted .committing).executed "COMMIT" 0) := by
  unfold commit
  rw [bind_of_ok (requireTransaction_of_open hopen), bind_of_ok (note_apply _ _)]
  have hblank : Text.isBlankText "COMMIT" ≠ true := by decide
  have hexecute := execute_of_not_blank hblank [] (session.noted .committing)
  rw [Session.answer_noted] at hexecute
  cases hanswer : session.answer "COMMIT" with
  | ok rows =>
      rw [hanswer] at hexecute
      rw [bind_of_ok hexecute]
      rfl
  | error error =>
      rw [hanswer] at hexecute
      exact bind_of_error hexecute

theorem rollback_of_not_open (hclosed : session.status runner ≠ .inTransaction) :
    runner.rollback session = (.error .noActiveTransaction, session) :=
  bind_of_error (requireTransaction_of_not_open hclosed)

/-- A transaction is closed even when the service refuses that. -/
theorem rollback_of_open (hopen : session.status runner = .inTransaction) :
    runner.rollback session =
      ((session.answer "ROLLBACK").map fun _ => (),
        ((session.noted .rollingBack).executed "ROLLBACK" 0).withStatus runner
          .rolledBack) := by
  unfold rollback
  rw [bind_of_ok (requireTransaction_of_open hopen), bind_of_ok (note_apply _ _),
    bind_of_ok (outcome_apply _ _), execute_of_not_blank (by decide)]
  simp only [Session.answer_noted]
  rw [bind_of_ok (setStatus_apply runner _ _)]
  cases session.answer "ROLLBACK" with
  | ok rows => rfl
  | error error => rfl

theorem savepoint_of_not_open (hclosed : session.status runner ≠ .inTransaction)
    (call : SavepointCall) (name : String) :
    runner.savepoint call name session = (.error .noActiveTransaction, session) :=
  bind_of_error (requireTransaction_of_not_open hclosed)

/-- A savepoint with a name that is not plain is refused in an open transaction too. -/
theorem savepoint_of_misnamed (hopen : session.status runner = .inTransaction) {name : String}
    {error : Error} (hname : Identifier.savepoint name = .error error) (call : SavepointCall) :
    runner.savepoint call name session = (.error error, session) := by
  unfold savepoint
  rw [bind_of_ok (requireTransaction_of_open hopen), hname]
  rfl

/-- The statement of a savepoint is not blank, whatever its name. -/
theorem not_blank_savepoint (call : SavepointCall) (name : String) :
    Text.isBlankText (call.keywords ++ " " ++ name) ≠ true := by
  cases call <;> simp [SavepointCall.keywords, Text.isBlankText, Text.isBlank]

/-- A savepoint sends one statement and leaves the transaction as it is. -/
theorem savepoint_of_open (hopen : session.status runner = .inTransaction) {name : String}
    (hname : Identifier.savepoint name = .ok name) (call : SavepointCall) :
    runner.savepoint call name session =
      ((session.answer (call.keywords ++ " " ++ name)).map fun _ => (),
        (session.noted (.savepoint call name)).executed (call.keywords ++ " " ++ name) 0) := by
  unfold savepoint
  rw [bind_of_ok (requireTransaction_of_open hopen), hname, bind_of_ok (lift_apply _ _),
    bind_of_ok (note_apply _ _)]
  rw [discard_apply, execute_of_not_blank (not_blank_savepoint call name), Session.answer_noted]
  rfl

end Runner

end TwinQuery
