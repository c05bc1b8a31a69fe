import TwinQuery.Proofs.Response.Readers
import TwinQuery.Proofs.Session.Usage

/-!
# Services that wrap their answers

A service may put an object into an envelope of success before it answers with it. No reader makes
anything else of the envelope than of the object, so sessions with such a service and with one
that answers plainly stay alike, whatever is done in them: `Program.envelope_transparent`.
-/

namespace TwinQuery

open SessionM Response

variable {σ τ α β : Type}

/-! ## Answers in envelopes -/

namespace Response

/-- An envelope of success around an object, whatever else is in it. -/
structure WrapsSuccess (answer : Json) (payload : Dictionary Json) : Prop where
  success : answer.field? "success" = some (.bool true)
  data : answer.field? "data" = some (.object payload)

/-- The readers make the same of two answers. -/
structure ReadAlike (answer other : Json) : Prop where
  rows : Rows.ofJson answer = Rows.ofJson other
  insert : InsertSummary.ofJson answer = InsertSummary.ofJson other
  update : UpdateSummary.ofJson answer = UpdateSummary.ofJson other
  delete : DeleteSummary.ofJson answer = DeleteSummary.ofJson other

theorem WrapsSuccess.wraps {answer : Json} {payload : Dictionary Json}
    (hwrapped : WrapsSuccess answer payload) : Wraps answer payload := by
  refine ⟨?_, hwrapped.data⟩
  rw [hwrapped.success]
  exact Option.some_ne_none _

/-- An object that is no envelope is read in one as it is read by itself. -/
theorem readAlike_of_wrapped {answer : Json} {payload : Dictionary Json}
    (hplain : ¬Enveloped (.object payload)) (hwrapped : WrapsSuccess answer payload) :
    ReadAlike (.object payload) answer := by
  have hself := readFrom_of_whole (whole_of_not_enveloped hplain)
  have hgiven := readFrom_of_wraps hwrapped.wraps
  constructor
  case rows => rw [hself.rows, hgiven.rows]
  case insert => rw [hself.insert, hgiven.insert]
  case update => rw [hself.update, hgiven.update]
  case delete => rw [hself.delete, hgiven.delete]

/-- Two replies with one answer, which the second may have put into an envelope of success. -/
inductive SameAnswer : Except Error Json → Except Error Json → Prop where
  | same (reply : Except Error Json) : SameAnswer reply reply
  | wrapped {answer : Json} {payload : Dictionary Json} (hplain : ¬Enveloped (.object payload))
      (hwrapped : WrapsSuccess answer payload) : SameAnswer (.ok (.object payload)) (.ok answer)

/-- A reader that makes the same of two replies with one answer. -/
def Transparent (read : Json → Except Error α) : Prop :=
  ∀ plain wrapped, SameAnswer plain wrapped → plain.bind read = wrapped.bind read

/-- A reader that makes the same of answers that are read alike does not see envelopes of
success. -/
theorem Transparent.of_readAlike {read : Json → Except Error α}
    (hread : ∀ answer other, ReadAlike answer other → read answer = read other) :
    Transparent read := by
  intro plain wrapped hsame
  cases hsame with
  | same reply => rfl
  | wrapped hplain hwrapped => exact hread _ _ (readAlike_of_wrapped hplain hwrapped)

/-- The reader of rows does not see envelopes of success. -/
theorem Rows.transparent : Transparent fun answer => (ofJson answer).bind checked :=
  .of_readAlike fun _ _ halike => congrArg (Except.bind · checked) halike.rows

end Response

/-! ## Sessions with services that answer alike -/

/-- From related states on, the services give the same answers, the second perhaps in envelopes. -/
structure Service.AnswerAlike [Service σ] [Service τ] (related : σ → τ → Prop) : Prop where
  result : ∀ {plain wrapping}, related plain wrapping → ∀ call : Call,
    SameAnswer (respond plain call).result (respond wrapping call).result
  events : ∀ {plain wrapping}, related plain wrapping → ∀ call : Call,
    (respond plain call).events = (respond wrapping call).events
  state : ∀ {plain wrapping}, related plain wrapping → ∀ call : Call,
    related (respond plain call).state (respond wrapping call).state

/-- Two sessions that differ in the states of their services only, and these are related. -/
structure Session.Alike (related : σ → τ → Prop) (plain : Session σ) (wrapping : Session τ) :
    Prop where
  service : related plain.service wrapping.service
  status : plain.status = wrapping.status
  calls : plain.calls = wrapping.calls
  events : plain.events = wrapping.events

/-- Two actions end with the same and leave sessions alike that were so before. -/
def GoAlike (related : σ → τ → Prop) (action : SessionM σ α) (other : SessionM τ α) : Prop :=
  ∀ plain wrapping, Session.Alike related plain wrapping →
    (action plain).1 = (other wrapping).1 ∧
      Session.Alike related (action plain).2 (other wrapping).2

variable {related : σ → τ → Prop}

namespace Session.Alike

variable {plain : Session σ} {wrapping : Session τ}

theorem noted (halike : Alike related plain wrapping) (event : Event) :
    Alike related (plain.noted event) (wrapping.noted event) :=
  ⟨halike.service, halike.status, halike.calls, congrArg (· ++ [event]) halike.events⟩

theorem withStatus (halike : Alike related plain wrapping) (runner : Runner)
    (status : TransactionStatus) :
    Alike related (plain.withStatus runner status) (wrapping.withStatus runner status) := by
  refine ⟨halike.service, ?_, halike.calls, halike.events⟩
  funext other
  simp only [Session.withStatus, halike.status]

variable [Service σ] [Service τ]

theorem sent (halike : Alike related plain wrapping) (hservices : Service.AnswerAlike related)
    (call : Call) : Alike related (send call plain).2 (send call wrapping).2 where
  service := hservices.state halike.service call
  status := halike.status
  calls := congrArg (· ++ [call]) halike.calls
  events := by
    change plain.events ++ _ = wrapping.events ++ _
    rw [halike.events, hservices.events halike.service]

/-- Executing a text gives the same in sessions that are alike. -/
theorem answer_eq (halike : Alike related plain wrapping) (hservices : Service.AnswerAlike related)
    (sql : String) : plain.answer sql = wrapping.answer sql :=
  Rows.transparent _ _ (hservices.result halike.service (queryCall sql))

theorem executed (halike : Alike related plain wrapping) (hservices : Service.AnswerAlike related)
    (sql : String) (parameters : Nat) :
    Alike related (plain.executed sql parameters) (wrapping.executed sql parameters) := by
  have hsent := halike.sent hservices (queryCall sql)
  refine ⟨hsent.service, hsent.status, hsent.calls, ?_⟩
  simp only [Session.executed, halike.events, hservices.events halike.service,
    halike.answer_eq hservices]

end Session.Alike

/-! ## Actions that go alike -/

namespace GoAlike

variable {action : SessionM σ α} {other : SessionM τ α}

/-- A check in front of actions that go alike is passed or fails in both. -/
theorem check (checked : Except Error Unit) (hgo : GoAlike related action other) :
    GoAlike related (do checked; action) (do checked; other) := by
  intro plain wrapping halike
  cases checked with
  | error error => exact ⟨rfl, halike⟩
  | ok _ => exact hgo plain wrapping halike

/-- What is made of a result afterwards has no part in the sessions. -/
theorem andThen (hgo : GoAlike related action other) {next : α → SessionM σ β}
    {last : α → SessionM τ β} (result : α → Except Error β)
    (hnext : ∀ value after, next value after = (result value, after))
    (hlast : ∀ value after, last value after = (result value, after)) :
    GoAlike related (action >>= next) (other >>= last) := by
  intro plain wrapping halike
  obtain ⟨hended, hafter⟩ := hgo plain wrapping halike
  rw [bind_apply result hnext, bind_apply result hlast]
  exact ⟨congrArg (Except.bind · result) hended, hafter⟩

theorem map (hgo : GoAlike related action other) (next : α → β) :
    GoAlike related (do return next (← action)) (do return next (← other)) :=
  hgo.andThen (fun value => .ok (next value)) (fun _ _ => rfl) fun _ _ => rfl

variable [Service σ] [Service τ]

/-- A call and a transparent reader of its answer go alike. -/
theorem ask (hservices : Service.AnswerAlike related) (event : Event) (call : Call)
    {read : Json → Except Error α} (hread : Transparent read) :
    GoAlike related (do note event; let answer ← send call; read answer : SessionM σ α)
      (do note event; let answer ← send call; read answer : SessionM τ α) := by
  intro plain wrapping halike
  rw [ask_apply, ask_apply]
  exact ⟨hread _ _ (hservices.result halike.service call),
    (halike.noted event).sent hservices call⟩

end GoAlike

section Acting

variable [Service σ] [Service τ] (hservices : Service.AnswerAlike related)

include hservices

/-- Executing a text goes alike, since a blank one is refused in both sessions and any other is
asked for. -/
theorem goAlike_execute (sql : String) (parameters : List Scalar) :
    GoAlike related (execute sql parameters : SessionM σ Rows)
      (execute sql parameters : SessionM τ Rows) := by
  intro plain wrapping halike
  by_cases hblank : Text.isBlankText sql = true
  · rw [execute_of_blank hblank, execute_of_blank hblank]
    exact ⟨rfl, halike⟩
  · rw [execute_of_not_blank hblank, execute_of_not_blank hblank]
    exact ⟨halike.answer_eq hservices sql, halike.executed hservices sql _⟩

namespace Runner

/-- Opening a transaction goes alike: sessions that are alike have the same statuses. -/
theorem goAlike_begin (runner : Runner) :
    GoAlike related (runner.begin : SessionM σ Unit) (runner.begin : SessionM τ Unit) := by
  intro plain wrapping halike
  have hexecuted :=
    (halike.noted .beginning).executed hservices "BEGIN TRANSACTION" 0
  by_cases hopen : plain.status runner = .inTransaction
  · rw [begin_of_open hopen, begin_of_open (halike.status ▸ hopen)]
    exact ⟨rfl, halike⟩
  · rw [begin_of_not_open hopen, begin_of_not_open (halike.status ▸ hopen),
      halike.answer_eq hservices]
    cases wrapping.answer "BEGIN TRANSACTION" with
    | ok rows => exact ⟨rfl, hexecuted.withStatus runner .inTransaction⟩
    | error error => exact ⟨rfl, hexecuted⟩

theorem goAlike_commit (runner : Runner) :
    GoAlike related (runner.commit : SessionM σ Unit) (runner.commit : SessionM τ Unit) := by
  intro plain wrapping halike
  have hexecuted := (halike.noted .committing).executed hservices "COMMIT" 0
  by_cases hopen : plain.status runner = .inTransaction
  · rw [commit_of_open hopen, commit_of_open (halike.status ▸ hopen), halike.answer_eq hservices]
    cases wrapping.answer "COMMIT" with
    | ok rows => exact ⟨rfl, hexecuted.withStatus runner .committed⟩
    | error error => exact ⟨rfl, hexecuted⟩
  · rw [commit_of_not_open hopen, commit_of_not_open (halike.status ▸ hopen)]
    exact ⟨rfl, halike⟩

theorem goAlike_rollback (runner : Runner) :
    GoAlike related (runner.rollback : SessionM σ Unit) (runner.rollback : SessionM τ Unit) := by
  intro plain wrapping halike
  have hexecuted := (halike.noted .rollingBack).executed hservices "ROLLBACK" 0
  by_cases hopen : plain.status runner = .inTransaction
  · rw [rollback_of_open hopen, rollback_of_open (halike.status ▸ hopen),
      halike.answer_eq hservices]
    exact ⟨rfl, hexecuted.withStatus runner .rolledBack⟩
  · rw [rollback_of_not_open hopen, rollback_of_not_open (halike.status ▸ hopen)]
    exact ⟨rfl, halike⟩

theorem goAlike_savepoint (runner : Runner) (call : SavepointCall) (name : String) :
    GoAlike related (runner.savepoint call name : SessionM σ Unit)
      (runner.savepoint call name : SessionM τ Unit) := by
  intro plain wrapping halike
  by_cases hopen : plain.status runner = .inTransaction
  · have hopen' : wrapping.status runner = .inTransaction := halike.status ▸ hopen
    cases hname : Identifier.savepoint name with
    | ok written =>
        cases Identifier.eq_of_savepoint_ok hname
        rw [savepoint_of_open hopen hname, savepoint_of_open hopen' hname,
          halike.answer_eq hservices]
        exact ⟨rfl, (halike.noted _).executed hservices _ 0⟩
    | error error =>
        rw [savepoint_of_misnamed hopen hname, savepoint_of_misnamed hopen' hname]
        exact ⟨rfl, halike⟩
  · rw [savepoint_of_not_open hopen, savepoint_of_not_open (halike.status ▸ hopen)]
    exact ⟨rfl, halike⟩

end Runner

/-- Every call on a runner goes alike. -/
theorem Command.goAlike_run (runner : Runner) (command : Command) :
    GoAlike related (command.run runner : SessionM σ Unit)
      (command.run runner : SessionM τ Unit) := by
  cases command with
  | execute sql parameters => exact (goAlike_execute hservices sql parameters).map fun _ => ()
  | begin => exact runner.goAlike_begin hservices
  | commit => exact runner.goAlike_commit hservices
  | rollback => exact runner.goAlike_rollback hservices
  | savepoint call name => exact runner.goAlike_savepoint hservices call name

namespace Tables

theorem goAlike_query (request : QueryRequest) :
    GoAlike related (query request : SessionM σ Rows) (query request : SessionM τ Rows) := by
  rw [query_eq, query_eq]
  exact .ask hservices _ _ Rows.transparent

theorem goAlike_select (statement : Select) :
    GoAlike related (select statement : SessionM σ Rows) (select statement : SessionM τ Rows) :=
  .check _ (goAlike_query hservices _)

theorem goAlike_insert (request : InsertRequest) :
    GoAlike related (insert request : SessionM σ InsertSummary)
      (insert request : SessionM τ InsertSummary) :=
  .ask hservices _ _ (.of_readAlike fun _ _ => ReadAlike.insert)

theorem goAlike_update (request : UpdateRequest) :
    GoAlike related (update request : SessionM σ UpdateSummary)
      (update request : SessionM τ UpdateSummary) :=
  .ask hservices _ _ (.of_readAlike fun _ _ => ReadAlike.update)

theorem goAlike_delete (request : DeleteRequest) :
    GoAlike related (delete request : SessionM σ DeleteSummary)
      (delete request : SessionM τ DeleteSummary) :=
  .ask hservices _ _ (.of_readAlike fun _ _ => ReadAlike.delete)

end Tables

/-- Every action that asks for rows goes alike. -/
theorem Reading.goAlike_run (reading : Reading α) :
    GoAlike related (reading.run : SessionM σ α) (reading.run : SessionM τ α) := by
  cases reading with
  | text sql parameters => exact goAlike_execute hservices sql parameters
  | statement written => exact .check _ (goAlike_execute hservices _ _)
  | call runner command => exact command.goAlike_run hservices runner
  | read request => exact Tables.goAlike_query hservices request
  | select written => exact Tables.goAlike_select hservices written
  | rows query => exact (Tables.goAlike_select hservices _).map _
  | first? query => exact (Tables.goAlike_select hservices _).map _
  | exists? query => exact (Tables.goAlike_select hservices _).map _
  | count query =>
      exact .check _ ((goAlike_execute hservices _ _).andThen _ Rows.counted_apply
        Rows.counted_apply)
  | pluck query column => exact (Tables.goAlike_select hservices _).map _
  | value? query column => exact (Tables.goAlike_select hservices _).map _

theorem Writing.goAlike_run (writing : Writing α) :
    GoAlike related (writing.run : SessionM σ α) (writing.run : SessionM τ α) := by
  cases writing with
  | insert request => exact Tables.goAlike_insert hservices request
  | update request => exact Tables.goAlike_update hservices request
  | delete request => exact Tables.goAlike_delete hservices request
  | insertWith statement => exact .check _ (Tables.goAlike_insert hservices _)
  | updateWith statement => exact .check _ (Tables.goAlike_update hservices _)
  | deleteWith statement => exact .check _ (Tables.goAlike_delete hservices _)
  | insertRows query rows => exact .check _ (Tables.goAlike_insert hservices _)
  | updateRows query values => exact .check _ (Tables.goAlike_update hservices _)
  | deleteRows query => exact .check _ (Tables.goAlike_delete hservices _)

/-- Every operation goes alike, by its two kinds. -/
theorem Operation.goAlike_run (operation : Operation α) :
    GoAlike related (operation.run : SessionM σ α) (operation.run : SessionM τ α) := by
  cases operation with
  | read reading => exact reading.goAlike_run hservices
  | write writing => exact writing.goAlike_run hservices

end Acting

/-! ## Programs of operations -/

/-- Operations one after another, each chosen by what the ones before ended with. -/
inductive Program (α : Type) : Type 1 where
  | done (result : α)
  | next {β : Type} (operation : Operation β) (rest : Except Error β → Program α)

namespace Program

def run [Service σ] : Program α → Session σ → α × Session σ
  | done result, session => (result, session)
  | next operation rest, session =>
      (rest (operation.run session).1).run (operation.run session).2

theorem run_next [Service σ] (operation : Operation β) (rest : Except Error β → Program α)
    (session : Session σ) :
    (next operation rest).run session =
      (rest (operation.run session).1).run (operation.run session).2 := rfl

/-- Sessions with services that answer alike stay alike. -/
theorem run_alike [Service σ] [Service τ] (hservices : Service.AnswerAlike related)
    (program : Program α) {plain : Session σ} {wrapping : Session τ}
    (halike : Session.Alike related plain wrapping) :
    (program.run plain).1 = (program.run wrapping).1 ∧
      Session.Alike related (program.run plain).2 (program.run wrapping).2 := by
  -- both sides go on with the same rest, for the operation ended with the same
  induction program generalizing plain wrapping with
  | done result => exact ⟨rfl, halike⟩
  | next operation rest ih =>
      obtain ⟨hended, hafter⟩ := operation.goAlike_run hservices plain wrapping halike
      rw [run_next, run_next, hended]
      exact ih _ hafter

/-- An object that is no envelope is read by itself as in any envelope of success. So no program can
tell a service that wraps such answers from one that does not. -/
theorem envelope_transparent :
    (∀ {answer : Json} {payload : Dictionary Json}, ¬Enveloped (.object payload) →
        WrapsSuccess answer payload → ReadAlike (.object payload) answer) ∧
      ∀ {σ τ : Type} [Service σ] [Service τ] {related : σ → τ → Prop},
        Service.AnswerAlike related →
          ∀ {α : Type} (program : Program α) {plain : Session σ} {wrapping : Session τ},
            Session.Alike related plain wrapping →
              (program.run plain).1 = (program.run wrapping).1 ∧
                Session.Alike related (program.run plain).2 (program.run wrapping).2 :=
  ⟨readAlike_of_wrapped, fun hservices _ program _ _ halike =>
    run_alike hservices program halike⟩

/-- The answer to a deletion, with another one under `data` that is not part of it. -/
def deletion : Dictionary Json :=
  [("cascaded_deletes", .null), ("data", .object [("deleted_count", .int 9)]),
    ("deleted_count", .int 1)]

def wrappedDeletion : Dictionary Json :=
  [("data", .object deletion), ("error", .string "slow"), ("success", .bool true)]

/-- Two services that answer every call with the one and with the other. -/
theorem answerAlike_deletion :
    ¬Enveloped (.object deletion) ∧ WrapsSuccess (.object wrappedDeletion) deletion ∧
      Service.AnswerAlike fun plain wrapping : Answering =>
        plain.fields = deletion ∧ wrapping.fields = wrappedDeletion := by
  have hplain : ¬Enveloped (.object deletion) := fun henveloped => henveloped.2 rfl
  have hwrapped : WrapsSuccess (.object wrappedDeletion) deletion := ⟨rfl, rfl⟩
  refine ⟨hplain, hwrapped, ?_, fun _ _ => rfl, fun hfields _ => hfields⟩
  rintro ⟨plain⟩ ⟨wrapping⟩ ⟨rfl, rfl⟩ call
  exact .wrapped hplain hwrapped

theorem envelope_transparent_deletion :
    let program : Program (Except Error DeleteSummary) :=
      .next (.write (.deleteRows ⟨{ table := ⟨"users"⟩ }⟩)) .done
    ReadAlike (.object deletion) (.object wrappedDeletion) ∧
      (program.run (Answering.session wrappedDeletion)).1 = .ok { deletedCount := 1 } ∧
      (program.run (Answering.session deletion)).1 =
        (program.run (Answering.session wrappedDeletion)).1 := by
  intro program
  obtain ⟨hplain, hwrapped, hservices⟩ := answerAlike_deletion
  have halike : Session.Alike (fun plain wrapping : Answering =>
      plain.fields = deletion ∧ wrapping.fields = wrappedDeletion)
      (Answering.session deletion) (Answering.session wrappedDeletion) :=
    ⟨⟨rfl, rfl⟩, rfl, rfl, rfl⟩
  exact ⟨envelope_transparent.1 hplain hwrapped, rfl,
    (envelope_transparent.2 hservices program halike).1⟩

end Program

end TwinQuery
