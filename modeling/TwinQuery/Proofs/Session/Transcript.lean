import TwinQuery.Proofs.Response.Failure
import TwinQuery.Proofs.Session.Executing

/-!
# Transcripts of sessions

A transcript records the calls that were made on runners, one after another, each with the
requests that it sent, the replies to them and how it ended. Calls on any number of runners may
alternate. A call that does not fit where its runner stands is refused and sends nothing
(`Command.run_of_refused`); any other one sends one text (`Command.sends_of_not_refused`).
-/

namespace TwinQuery

open SessionM

variable {σ : Type}

/-! ## Exchanges with a service -/

/-- A request and the reply to it. -/
structure Exchange where
  call : Call
  reply : Except Error Json

def Exchange.accepted (exchange : Exchange) : Bool :=
  (Response.Rows.ofReply exchange.reply).isOk

/-- The requests and replies when a service gets one request after another. -/
def Service.exchanges [Service σ] (service : σ) : List Call → List Exchange
  | [] => []
  | call :: rest =>
      let reply := Service.respond service call
      ⟨call, reply.result⟩ :: exchanges reply.state rest

/-- What executing a text exchanges with the service where a session stands. -/
def Session.exchange [Service σ] (session : Session σ) (sql : String) : Exchange :=
  ⟨queryCall sql, (Service.respond session.service (queryCall sql)).result⟩

/-! ## Calls on a runner -/

/-- A call on a runner. -/
inductive Command where
  | execute (sql : String) (parameters : List Scalar)
  | begin
  | commit
  | rollback
  | savepoint (call : SavepointCall) (name : String)

namespace Command

def run [Service σ] (runner : Runner) : Command → SessionM σ Unit
  | execute sql parameters => do
      let _ ← TwinQuery.execute sql parameters
  | begin => runner.begin
  | commit => runner.commit
  | rollback => runner.rollback
  | savepoint call name => runner.savepoint call name

def sql : Command → String
  | execute sql _ => sql
  | begin => "BEGIN TRANSACTION"
  | commit => "COMMIT"
  | rollback => "ROLLBACK"
  | savepoint call name => call.keywords ++ " " ++ name

/-- Whether a call sends a statement about the transaction of its runner. A text that is executed is
none, whatever it says. -/
def isTransactional : Command → Bool
  | execute _ _ => false
  | begin | commit | rollback | savepoint _ _ => true

/-- Why a call is refused where its runner stands, if it is. -/
def refusal? (status : TransactionStatus) : Command → Option Error
  | execute sql _ =>
      if Text.isBlankText sql then some (.emptyStatement "empty query text") else none
  | begin => if status = .inTransaction then some .transactionActive else none
  | commit | rollback => if status = .inTransaction then none else some .noActiveTransaction
  | savepoint _ name =>
      if status = .inTransaction then
        match Identifier.savepoint name with
        | .ok _ => none
        | .error error => some error
      else some .noActiveTransaction

/-- Whether a call fits where its runner stands. -/
def Fits (status : TransactionStatus) : Command → Prop
  | execute sql _ => Text.isBlankText sql ≠ true
  | begin => status ≠ .inTransaction
  | commit | rollback => status = .inTransaction
  | savepoint _ name => status = .inTransaction ∧ Identifier.savepoint name = .ok name

/-- Where a call leads when the service accepts what it sends or does not, if it leads anywhere. -/
def event? (accepted : Bool) : Command → Option TransactionStatus
  | begin => if accepted then some .inTransaction else none
  | commit => if accepted then some .committed else none
  | rollback => some .rolledBack
  | execute _ _ | savepoint _ _ => none

end Command

/-! ## What calls do to a session -/

/-- Where all transactions stand when that of one runner goes where an event leads. -/
def Session.statusAfter (session : Session σ) (runner : Runner)
    (event? : Option TransactionStatus) : Runner → TransactionStatus :=
  fun other =>
    if other = runner then event?.getD (session.status runner) else session.status other

theorem Session.statusAfter_none (session : Session σ) (runner : Runner) :
    session.statusAfter runner none = session.status := by
  funext other
  unfold statusAfter
  split
  next hother => rw [hother, Option.getD_none]
  next => rfl

section Run

variable [Service σ] {runner : Runner} {session : Session σ}

/-- A name that is accepted for a savepoint is written as it is. -/
theorem Identifier.eq_of_savepoint_ok {name written : String}
    (hname : Identifier.savepoint name = .ok written) : written = name := by
  unfold Identifier.savepoint at hname
  split at hname
  · exact (Except.ok.inj hname).symm
  · cases hname

namespace Command

/-- A call that is not refused fits. -/
theorem fits_of_not_refused {status : TransactionStatus} {command : Command}
    (hrefusal : command.refusal? status = none) : command.Fits status := by
  cases command with
  | execute sql parameters => simpa [refusal?, Fits] using hrefusal
  | begin => simpa [refusal?, Fits] using hrefusal
  | commit => simpa [refusal?, Fits] using hrefusal
  | rollback => simpa [refusal?, Fits] using hrefusal
  | savepoint call name =>
      simp only [refusal?] at hrefusal
      split at hrefusal
      next hopen =>
        cases hname : Identifier.savepoint name with
        | ok written =>
            cases Identifier.eq_of_savepoint_ok hname
            exact ⟨hopen, hname⟩
        | error reason => simp [hname] at hrefusal
      next => cases hrefusal

/-- A refused call sends nothing and changes nothing. -/
theorem run_of_refused {command : Command} {error : Error}
    (hrefused : command.refusal? (session.status runner) = some error) :
    command.run runner session = (.error error, session) := by
  cases command with
  | execute sql parameters =>
      simp only [refusal?] at hrefused
      split at hrefused
      next hblank =>
        cases hrefused
        exact bind_of_error (execute_of_blank hblank parameters session)
      next => cases hrefused
  | begin =>
      simp only [refusal?] at hrefused
      split at hrefused
      next hopen =>
        cases hrefused
        exact Runner.begin_of_open hopen
      next => cases hrefused
  | commit =>
      simp only [refusal?] at hrefused
      split at hrefused
      next => cases hrefused
      next hclosed =>
        cases hrefused
        exact Runner.commit_of_not_open hclosed
  | rollback =>
      simp only [refusal?] at hrefused
      split at hrefused
      next => cases hrefused
      next hclosed =>
        cases hrefused
        exact Runner.rollback_of_not_open hclosed
  | savepoint call name =>
      simp only [refusal?] at hrefused
      split at hrefused
      next hopen =>
        cases hname : Identifier.savepoint name with
        | ok written => simp [hname] at hrefused
        | error reason =>
            rw [hname] at hrefused
            cases hrefused
            exact Runner.savepoint_of_misnamed hopen hname call
      next hclosed =>
        cases hrefused
        exact Runner.savepoint_of_not_open hclosed call name

/-- What a call comes to that sends its text: it ends as the service answers, and only the status
of its own runner may change. -/
structure Sends (runner : Runner) (command : Command) (session : Session σ)
    (ended : Except Error Unit × Session σ) : Prop where
  result : ended.1 = (session.answer command.sql).map fun _ => ()
  calls : ended.2.calls = session.calls ++ [queryCall command.sql]
  status : ended.2.status =
    session.statusAfter runner (command.event? (session.exchange command.sql).accepted)

/-- A call that leads somewhere only when the service accepts what it sends. -/
theorem Sends.of_answer (command : Command) {status : TransactionStatus} {after : Session σ}
    (hevent : ∀ accepted, command.event? accepted = if accepted then some status else none)
    (hcalls : after.calls = session.calls ++ [queryCall command.sql])
    (hstatus : after.status = session.status) :
    Sends runner command session
      (match session.answer command.sql with
        | .ok _ => (.ok (), after.withStatus runner status)
        | .error error => (.error error, after)) := by
  have haccepted : (session.exchange command.sql).accepted =
      (session.answer command.sql).isOk := rfl
  cases hanswer : session.answer command.sql with
  | ok rows =>
      refine ⟨by rw [hanswer]; rfl, hcalls, ?_⟩
      rw [haccepted, hanswer, hevent]
      funext other
      exact congrArg (fun statuses => if other = runner then status else statuses other) hstatus
  | error error =>
      refine ⟨by rw [hanswer]; rfl, hcalls, ?_⟩
      rw [haccepted, hanswer, hevent, hstatus]
      exact (session.statusAfter_none runner).symm

/-- Any call that is not refused sends its text. -/
theorem sends_of_not_refused {command : Command}
    (hrefusal : command.refusal? (session.status runner) = none) :
    Sends runner command session (command.run runner session) := by
  have hfits := fits_of_not_refused hrefusal
  cases command with
  | execute sql parameters =>
      rw [run, discard_apply, execute_of_not_blank hfits]
      exact ⟨rfl, rfl, (session.statusAfter_none runner).symm⟩
  | begin =>
      rw [run, Runner.begin_of_not_open hfits]
      exact Sends.of_answer .begin (fun _ => rfl) rfl rfl
  | commit =>
      rw [run, Runner.commit_of_open hfits]
      exact Sends.of_answer .commit (fun _ => rfl) rfl rfl
  | rollback =>
      rw [run, Runner.rollback_of_open hfits]
      exact ⟨rfl, rfl, rfl⟩
  | savepoint call name =>
      obtain ⟨hopen, hname⟩ := hfits
      rw [run, Runner.savepoint_of_open hopen hname]
      exact ⟨rfl, rfl, (session.statusAfter_none runner).symm⟩

end Command

end Run

/-! ## Transcripts -/

/-- A call on a runner as it is seen from outside: what it exchanged with the service, and how it
ended. -/
structure Entry where
  runner : Runner
  command : Command
  exchanges : List Exchange
  result : Except Error Unit

/-- Where the exchanges of a call led its runner. -/
def Entry.events (entry : Entry) : List TransactionStatus :=
  entry.exchanges.filterMap fun exchange => entry.command.event? exchange.accepted

/-- A session and the calls made in it. -/
structure Transcript (σ : Type) where
  session : Session σ
  entries : List Entry := []

namespace Transcript

/-- What a runner sent by the calls about its transaction, with the replies. -/
def statements (transcript : Transcript σ) (runner : Runner) : List Exchange :=
  (transcript.entries.filter fun entry =>
    decide (entry.runner = runner) && entry.command.isTransactional).flatMap Entry.exchanges

/-- Where the exchanges of a runner led it, in order. -/
def events (transcript : Transcript σ) (runner : Runner) : List TransactionStatus :=
  (transcript.entries.filter fun entry => decide (entry.runner = runner)).flatMap Entry.events

variable [Service σ]

def entryOf (session : Session σ) (runner : Runner) (command : Command) : Entry :=
  let ended := command.run runner session
  { runner, command
    exchanges := Service.exchanges session.service (ended.2.calls.drop session.calls.length)
    result := ended.1 }

/-- Make one call more. -/
def make (transcript : Transcript σ) (runner : Runner) (command : Command) : Transcript σ :=
  { session := (command.run runner transcript.session).2
    entries := transcript.entries ++ [entryOf transcript.session runner command] }

/-- The transcript of calls made one after another on new runners over a service. -/
def ofCalls (service : σ) (calls : List (Runner × Command)) : Transcript σ :=
  calls.foldl (fun transcript call => transcript.make call.1 call.2) { session := { service } }

theorem ofCalls_concat (service : σ) (calls : List (Runner × Command)) (call : Runner × Command) :
    ofCalls service (calls ++ [call]) = (ofCalls service calls).make call.1 call.2 := by
  unfold ofCalls
  rw [List.foldl_append, List.foldl_cons, List.foldl_nil]

/-! ## The entry of one call -/

section Entries

variable {session : Session σ} {runner : Runner} {command : Command}

/-- A call that is refused exchanges nothing. -/
theorem entryOf_of_refused {error : Error}
    (hrefused : command.refusal? (session.status runner) = some error) :
    entryOf session runner command = ⟨runner, command, [], .error error⟩ := by
  rw [entryOf, Command.run_of_refused hrefused, List.drop_length]
  rfl

/-- Any other call exchanges its one text for the answer that it ends with. -/
theorem entryOf_of_not_refused (hrefusal : command.refusal? (session.status runner) = none) :
    entryOf session runner command =
      ⟨runner, command, [session.exchange command.sql],
        (session.answer command.sql).map fun _ => ()⟩ := by
  have hsends := Command.sends_of_not_refused hrefusal
  rw [entryOf, hsends.calls, hsends.result, List.drop_left]
  rfl

theorem flatMap_filter_concat {α β : Type} (keep : α → Bool) (f : α → List β) (entries : List α)
    (last : α) :
    ((entries ++ [last]).filter keep).flatMap f =
      (entries.filter keep).flatMap f ++ if keep last = true then f last else [] := by
  rw [List.filter_append, List.flatMap_append]
  cases hkeep : keep last with
  | true => simp [hkeep]
  | false => simp [hkeep]

/-- A call adds to the statements of its own runner alone, and only if it is about the
transaction. -/
theorem statements_make (transcript : Transcript σ) (runner other : Runner) (command : Command) :
    (transcript.make runner command).statements other =
      transcript.statements other ++
        if (decide (runner = other) && command.isTransactional) = true then
          (entryOf transcript.session runner command).exchanges
        else [] :=
  flatMap_filter_concat _ _ _ _

theorem events_make (transcript : Transcript σ) (runner other : Runner) (command : Command) :
    (transcript.make runner command).events other =
      transcript.events other ++
        if decide (runner = other) = true then (entryOf transcript.session runner command).events
        else [] :=
  flatMap_filter_concat _ _ _ _

end Entries

end Transcript

end TwinQuery
