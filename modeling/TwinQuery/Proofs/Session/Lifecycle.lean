import Mathlib.Computability.Language
import TwinQuery.Proofs.Session.Transcript

/-!
# Where a transaction stands

The status of a runner is the last thing that happened to it in its transcript, and the statements
that it sent about its transaction form a language: transactions that were closed one after
another, and at most one at the end that is still open. Copies of a runner are the runner itself,
so their calls count alike; the calls of other runners, over the same service, do not count.
`Transcript.lifecycle` says this of any calls and any replies.
-/

namespace TwinQuery

open scoped Computability

/-! ## The language of statements -/

namespace Exchange

/-- One statement with a text that the service accepts, or one that it does not. -/
def one (sql : String) (accepted : Bool) : Language Exchange :=
  {word | ∃ exchange : Exchange, exchange.call = queryCall sql ∧ exchange.accepted = accepted ∧
    word = [exchange]}

def savepoint : Language Exchange :=
  {word | ∃ (call : SavepointCall) (name : String) (exchange : Exchange),
    Identifier.isPlain name = true ∧
      exchange.call = queryCall (call.keywords ++ " " ++ name) ∧ word = [exchange]}

/-- What leaves an open transaction open: savepoints and commits that fail. -/
def inside : Language Exchange :=
  (savepoint + one "COMMIT" false)∗

/-- What closes an open transaction: a commit that succeeds, or any rollback. -/
def closing : Language Exchange :=
  one "COMMIT" true + (one "ROLLBACK" true + one "ROLLBACK" false)

/-- Transactions that are closed, and attempts to open one. -/
def settled : Language Exchange :=
  (one "BEGIN TRANSACTION" false + one "BEGIN TRANSACTION" true * inside * closing)∗

/-- The same, and one transaction behind them that is still open. -/
def unfinished : Language Exchange :=
  settled * (one "BEGIN TRANSACTION" true * inside)

/-- What a runner may have sent about its transaction when it stands at a status. -/
def sentAt (status : TransactionStatus) : Language Exchange :=
  if status = .inTransaction then unfinished else settled

theorem sentAt_of_open {status : TransactionStatus} (hopen : status = .inTransaction) :
    sentAt status = unfinished :=
  if_pos hopen

theorem sentAt_of_not_open {status : TransactionStatus} (hclosed : status ≠ .inTransaction) :
    sentAt status = settled :=
  if_neg hclosed

section Words

variable {first last : List Exchange}

/-- One word more of a language leaves a sequence of its words one. -/
theorem append_mem_kstar {language : Language Exchange} (hfirst : first ∈ language∗)
    (hlast : last ∈ language) : first ++ last ∈ language∗ := by
  have hle : language∗ * language ≤ language∗ := kstar_mul_le_kstar
  exact hle (Language.append_mem_mul hfirst hlast)

/-- A transaction that the service refuses to open leaves none behind. -/
theorem mem_settled_of_refused (hfirst : first ∈ settled)
    (hlast : last ∈ one "BEGIN TRANSACTION" false) : first ++ last ∈ settled :=
  append_mem_kstar hfirst (Or.inl hlast)

/-- A transaction that is opened is the one that is unfinished. -/
theorem mem_unfinished_of_opened (hfirst : first ∈ settled)
    (hlast : last ∈ one "BEGIN TRANSACTION" true) : first ++ last ∈ unfinished := by
  have hinside : [] ∈ inside := Language.nil_mem_kstar _
  have hopened := Language.append_mem_mul hlast hinside
  rw [List.append_nil] at hopened
  exact Language.append_mem_mul hfirst hopened

/-- Savepoints and commits that fail leave the transaction unfinished. -/
theorem mem_unfinished_of_inside (hfirst : first ∈ unfinished)
    (hlast : last ∈ savepoint + one "COMMIT" false) : first ++ last ∈ unfinished := by
  obtain ⟨before, hbefore, _, ⟨opened, hopened, within, hwithin, rfl⟩, rfl⟩ := hfirst
  rw [List.append_assoc, List.append_assoc]
  exact Language.append_mem_mul hbefore
    (Language.append_mem_mul hopened (append_mem_kstar hwithin hlast))

/-- A commit that succeeds and any rollback settle the transaction. -/
theorem mem_settled_of_closing (hfirst : first ∈ unfinished) (hlast : last ∈ closing) :
    first ++ last ∈ settled := by
  obtain ⟨before, hbefore, _, ⟨opened, hopened, within, hwithin, rfl⟩, rfl⟩ := hfirst
  rw [List.append_assoc]
  exact append_mem_kstar hbefore
    (Or.inr (Language.append_mem_mul (Language.append_mem_mul hopened hwithin) hlast))

end Words

theorem mem_one {exchange : Exchange} {sql : String} {accepted : Bool}
    (hcall : exchange.call = queryCall sql) (haccepted : exchange.accepted = accepted) :
    [exchange] ∈ one sql accepted :=
  ⟨exchange, hcall, haccepted, rfl⟩

/-- A call that is sent continues what its runner has sent before in the language of the status to
which it leads. -/
theorem append_mem_sentAt {command : Command} {status : TransactionStatus}
    {before : List Exchange} (hbefore : before ∈ sentAt status) (hfits : command.Fits status)
    (exchange : Exchange) (hcall : exchange.call = queryCall command.sql) :
    before ++ (if command.isTransactional = true then [exchange] else []) ∈
      sentAt ((command.event? exchange.accepted).getD status) := by
  cases command with
  | execute sql parameters => simpa [Command.isTransactional, Command.event?] using hbefore
  | begin =>
      rw [sentAt_of_not_open hfits] at hbefore
      cases haccepted : exchange.accepted with
      | true => exact mem_unfinished_of_opened hbefore (mem_one hcall haccepted)
      | false =>
          rw [Command.event?, if_neg Bool.false_ne_true, Option.getD_none, sentAt_of_not_open hfits]
          exact mem_settled_of_refused hbefore (mem_one hcall haccepted)
  | commit =>
      rw [sentAt_of_open hfits] at hbefore
      cases haccepted : exchange.accepted with
      | true => exact mem_settled_of_closing hbefore (Or.inl (mem_one hcall haccepted))
      | false =>
          rw [Command.event?, if_neg Bool.false_ne_true, Option.getD_none, sentAt_of_open hfits]
          exact mem_unfinished_of_inside hbefore (Or.inr (mem_one hcall haccepted))
  | rollback =>
      rw [sentAt_of_open hfits] at hbefore
      refine mem_settled_of_closing hbefore (Or.inr ?_)
      cases haccepted : exchange.accepted with
      | true => exact Or.inl (mem_one hcall haccepted)
      | false => exact Or.inr (mem_one hcall haccepted)
  | savepoint call name =>
      obtain ⟨hopen, hname⟩ := hfits
      have hplain : Identifier.isPlain name = true := by
        by_contra hnot
        simp [Identifier.savepoint, hnot] at hname
      rw [sentAt_of_open hopen] at hbefore
      rw [Command.event?, Option.getD_none, sentAt_of_open hopen]
      exact mem_unfinished_of_inside hbefore (Or.inl ⟨call, name, exchange, hplain, hcall, rfl⟩)

end Exchange

/-! ## The invariant -/

variable {σ : Type}

/-- Where a runner stands and what it has sent about its transaction. -/
structure Tracks (runner : Runner) (transcript : Transcript σ) : Prop where
  /-- The status is where the last event led, and idle when there was none. -/
  status : transcript.session.status runner = (transcript.events runner).getLast?.getD .idle
  /-- The statements are in the language of the status: every transaction is closed but the last
  one, and that one is open exactly when the status says so. -/
  statements : transcript.statements runner ∈
    Exchange.sentAt (transcript.session.status runner)

namespace Tracks

variable {runner : Runner} {transcript : Transcript σ}

/-- Before any call no transaction is open, and nothing was sent about one. -/
theorem start (service : σ) (runner : Runner) :
    Tracks runner ({ session := { service } } : Transcript σ) where
  status := rfl
  statements := Language.nil_mem_kstar _

/-- Nothing changes for a runner when its status and all that it sent stay what they were. -/
theorem of_eq {next : Transcript σ} (htracks : Tracks runner transcript)
    (hstatus : next.session.status runner = transcript.session.status runner)
    (hevents : next.events runner = transcript.events runner)
    (hstatements : next.statements runner = transcript.statements runner) :
    Tracks runner next where
  status := by rw [hstatus, hevents, htracks.status]
  statements := by
    rw [hstatus, hstatements]
    exact htracks.statements

variable [Service σ]

/-- A call that is refused, of this runner or another one, sends nothing and moves no status. -/
theorem make_of_refused (htracks : Tracks runner transcript) {maker : Runner} {command : Command}
    {error : Error} (hrefused : command.refusal? (transcript.session.status maker) = some error) :
    Tracks runner (transcript.make maker command) := by
  have hentry := Transcript.entryOf_of_refused hrefused
  apply htracks.of_eq
  · rw [Transcript.make, Command.run_of_refused hrefused]
  · rw [Transcript.events_make, hentry]
    simp [Entry.events]
  · rw [Transcript.statements_make, hentry]
    simp

/-- The calls of one runner do not count for another. -/
theorem make_of_ne (htracks : Tracks runner transcript) {maker : Runner} (hne : maker ≠ runner)
    {command : Command} (hrefusal : command.refusal? (transcript.session.status maker) = none) :
    Tracks runner (transcript.make maker command) := by
  have hsends := Command.sends_of_not_refused hrefusal
  apply htracks.of_eq
  · rw [Transcript.make, hsends.status, Session.statusAfter, if_neg hne.symm]
  · simp [Transcript.events_make, hne]
  · simp [Transcript.statements_make, hne]

/-- A call that sends its text adds a word that goes with the status which the runner moves to. -/
theorem make_of_not_refused (htracks : Tracks runner transcript) {command : Command}
    (hrefusal : command.refusal? (transcript.session.status runner) = none) :
    Tracks runner (transcript.make runner command) := by
  have hsends := Command.sends_of_not_refused hrefusal
  have hentry := Transcript.entryOf_of_not_refused hrefusal
  have hstatus : (transcript.make runner command).session.status runner =
      (command.event? (transcript.session.exchange command.sql).accepted).getD
        (transcript.session.status runner) := by
    rw [Transcript.make, hsends.status, Session.statusAfter, if_pos rfl]
  constructor
  case status =>
    rw [hstatus, Transcript.events_make, hentry, htracks.status]
    simp only [Entry.events, List.filterMap_cons, List.filterMap_nil]
    cases command.event? (transcript.session.exchange command.sql).accepted with
    | none => simp
    | some status => simp
  case statements =>
    have hword := Exchange.append_mem_sentAt htracks.statements
      (Command.fits_of_not_refused hrefusal) (transcript.session.exchange command.sql) rfl
    rw [hstatus, Transcript.statements_make, hentry]
    simpa using hword

/-- One call more is followed, whoever makes it and whatever the service replies. -/
theorem make (htracks : Tracks runner transcript) (maker : Runner) (command : Command) :
    Tracks runner (transcript.make maker command) := by
  cases hrefusal : command.refusal? (transcript.session.status maker) with
  | some error => exact htracks.make_of_refused hrefusal
  | none =>
      by_cases hsame : maker = runner
      · subst hsame
        exact htracks.make_of_not_refused hrefusal
      · exact htracks.make_of_ne hsame hrefusal

end Tracks

/-! ## Whole sessions -/

namespace Transcript

variable [Service σ]

def requests (transcript : Transcript σ) : List Call :=
  transcript.entries.flatMap fun entry => entry.exchanges.map Exchange.call

/-- What one call more does. -/
structure Advances (transcript : Transcript σ) (runner : Runner) (command : Command) : Prop where
  /-- A call that does not fit where its runner stands raises why, sends nothing and leaves the
  session as it was. -/
  refused : ∀ error, command.refusal? (transcript.session.status runner) = some error →
    entryOf transcript.session runner command = ⟨runner, command, [], .error error⟩ ∧
      (transcript.make runner command).session = transcript.session
  /-- Any other call sends one statement and ends as the reply to it says. -/
  sent : command.refusal? (transcript.session.status runner) = none →
    ∃ reply, entryOf transcript.session runner command =
      ⟨runner, command, [⟨queryCall command.sql, reply⟩],
        (Response.Rows.ofReply reply).map fun _ => ()⟩
  /-- The status of a runner changes by an event of its own and by nothing else. -/
  unchanged : ∀ other,
    runner ≠ other ∨ (entryOf transcript.session runner command).events = [] →
      (transcript.make runner command).session.status other = transcript.session.status other

/-- Every call advances the transcript, whether it is refused or sent. -/
theorem advances (transcript : Transcript σ) (runner : Runner) (command : Command) :
    Advances transcript runner command := by
  cases hrefusal : command.refusal? (transcript.session.status runner) with
  | some error =>
      have hsession : (transcript.make runner command).session = transcript.session := by
        rw [make, Command.run_of_refused hrefusal]
      constructor
      case refused =>
        intro raised hraised
        rw [hrefusal] at hraised
        cases hraised
        exact ⟨entryOf_of_refused hrefusal, hsession⟩
      case sent =>
        intro hnone
        rw [hrefusal] at hnone
        cases hnone
      case unchanged =>
        intro other _
        rw [hsession]
  | none =>
      have hentry := entryOf_of_not_refused hrefusal
      constructor
      case refused =>
        intro raised hraised
        rw [hrefusal] at hraised
        cases hraised
      case sent =>
        intro _
        exact ⟨_, hentry⟩
      case unchanged =>
        intro other hother
        rw [make, (Command.sends_of_not_refused hrefusal).status, Session.statusAfter]
        split
        next hsame =>
          -- the runner itself made the call, so the call led nowhere
          have hevents := hother.resolve_left fun hne => hne hsame.symm
          have hevent :
              command.event? (transcript.session.exchange command.sql).accepted = none := by
            simpa [hentry, Entry.events] using hevents
          rw [hevent, hsame, Option.getD_none]
        next => rfl

/-- Every request of one call more is in its entry. -/
theorem calls_make {transcript : Transcript σ}
    (hcalls : transcript.session.calls = transcript.requests) (runner : Runner)
    (command : Command) :
    (transcript.make runner command).session.calls =
      (transcript.make runner command).requests := by
  have hrequests : (transcript.make runner command).requests = transcript.requests ++
      (entryOf transcript.session runner command).exchanges.map Exchange.call := by
    simp [requests, make]
  rw [hrequests, make]
  cases hrefusal : command.refusal? (transcript.session.status runner) with
  | some error =>
      rw [Command.run_of_refused hrefusal, entryOf_of_refused hrefusal, hcalls]
      simp
  | none =>
      rw [(Command.sends_of_not_refused hrefusal).calls, entryOf_of_not_refused hrefusal, hcalls]
      rfl

/-- Whatever calls are made, by whichever runners in turn, and whatever the service replies to
them: each runner stands where its own last event led, its statements are in the language of
transactions that are closed one after another with at most the last one open, all requests to
the service are those of the calls, and a further call is refused at once or sends one statement
and changes the status of its own runner at most. -/
theorem lifecycle (service : σ) (calls : List (Runner × Command)) :
    (∀ runner, Tracks runner (ofCalls service calls)) ∧
      (ofCalls service calls).session.calls = (ofCalls service calls).requests ∧
      ∀ runner command, Advances (ofCalls service calls) runner command := by
  induction calls using List.reverseRecOn with
  | nil => exact ⟨Tracks.start service, rfl, advances _⟩
  | append_singleton calls call ih =>
      obtain ⟨htracks, hcalls, _⟩ := ih
      rw [ofCalls_concat]
      exact ⟨fun runner => (htracks runner).make call.1 call.2, calls_make hcalls call.1 call.2,
        advances _⟩

end Transcript

end TwinQuery
