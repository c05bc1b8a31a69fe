import TwinQuery.Proofs.Session.Transcript
import TwinQuery.Session.TableQuery

/-!
# Actions that meet a failure

An action that reads or writes is refused before anything is sent, or makes one call and ends as it
reads the reply. So what becomes of a failure that a service reports is decided by how replies
are read: `Reading.raises_iff_not_masked` for all actions that ask for rows, the transaction calls
among them, and `Writing.failure_without_data` for all that write.
-/

namespace TwinQuery

open SessionM Response

variable {σ α β : Type}

/-! ## Actions of one call -/

section Calls

variable [Service σ]

/-- How an action ends that starts in a session: it is refused there, or makes one call and ends
with what `read` makes of the reply, which is one of the ways of reading `Reads`. -/
inductive Ends (Reads : (Except Error Json → Except Error α) → Prop) (session : Session σ)
    (ended : Except Error α × Session σ) : Prop where
  | refused (error : Error) (hended : ended = (.error error, session))
  | asked (call : Call) (read : Except Error Json → Except Error α) (hread : Reads read)
      (hcalls : ended.2.calls = session.calls ++ [call])
      (hresult : ended.1 = read (Service.respond session.service call).result)

namespace Ends

variable {Reads : (Except Error Json → Except Error α) → Prop} {session : Session σ}

/-- An action that made a call ends as it reads the reply to that call. -/
theorem of_call {ended : Except Error α × Session σ} (hends : Ends Reads session ended)
    {call : Call} (hcall : ended.2.calls = session.calls ++ [call]) :
    ∃ read, Reads read ∧ ended.1 = read (Service.respond session.service call).result := by
  cases hends with
  | refused error hended =>
      rw [hended] at hcall
      simp at hcall
  | asked made read hread hcalls hresult =>
      have hmade : made = call := by
        rw [hcalls] at hcall
        simpa using hcall
      exact ⟨read, hread, hmade ▸ hresult⟩

/-- What is checked first may only refuse. -/
theorem check {action : SessionM σ α} (checked : Except Error Unit)
    (hends : Ends Reads session (action session)) :
    Ends Reads session ((do checked; action : SessionM σ α) session) := by
  cases checked with
  | error error => exact .refused error rfl
  | ok _ => exact hends

/-- An event, a call, and what is read out of the answer. -/
theorem of_send (event : Event) (call : Call) {read : Json → Except Error α}
    (hread : Reads fun reply => reply.bind read) :
    Ends Reads session
      ((do note event; let answer ← send call; read answer : SessionM σ α) session) := by
  rw [ask_apply]
  exact .asked call _ hread rfl rfl

end Ends

end Calls

/-! ## A service with one answer -/

/-- The state of a service that answers every call with the same fields. -/
structure Answering where
  fields : Dictionary Json

instance : Service Answering where
  respond state _ := { result := .ok (.object state.fields), state }

/-- A session with such a service in which all transactions are open. -/
def Answering.session (fields : Dictionary Json) : Session Answering :=
  { service := ⟨fields⟩, status := fun _ => .inTransaction }

/-! ## Asking for rows -/

/-- A way of reading replies that raises every failure which is found in a reply of rows, and none
that a service could have reported besides. -/
structure Faithful (read : Except Error Json → Except Error α) : Prop where
  raised : ∀ reply error, Rows.ofReply reply = .error error → read reply = .error error
  quiet : ∀ reply rows, Rows.ofReply reply = .ok rows →
    ∀ reason, read reply ≠ .error (.query reason)

/-- Reading rows out of a reply raises every failure that the reply reports. -/
theorem faithful_ofReply : Faithful Rows.ofReply where
  raised _ _ := id
  quiet reply rows hrows reason := by
    rw [hrows]
    exact fun h => by cases h

/-- What is made of the rows afterwards raises no failure of the service. -/
theorem Faithful.bind {read : Except Error Json → Except Error α} (hread : Faithful read)
    {next : α → Except Error β} (hnext : ∀ value reason, next value ≠ .error (.query reason)) :
    Faithful fun reply => (read reply).bind next where
  raised reply error hraised := by
    rw [hread.raised reply error hraised]
    rfl
  quiet reply rows hrows := by
    have hquiet := hread.quiet reply rows hrows
    cases hresult : read reply with
    | ok value => exact hnext value
    | error error =>
        rintro reason heq
        cases heq
        exact hquiet reason hresult

/-- Whatever stands in the place of a count, it is a number or fails to be read as one. -/
theorem Response.Rows.eq_decode_of_count {row : Row} {error : Error}
    (h : Rows.count row = .error error) : ∃ reason, error = .decode reason := by
  unfold Rows.count at h
  grind

/-- A row that cannot be counted is no failure of the service. -/
theorem Response.Rows.count_ne_query (row : Row) (reason : String) :
    Rows.count row ≠ .error (.query reason) := by
  intro h
  obtain ⟨_, heq⟩ := eq_decode_of_count h
  cases heq

def Response.Rows.counted (rows : Rows) : Except Error UInt64 :=
  match rows.rows.head? with
  | some row => Rows.count row
  | none => .ok 0

theorem Response.Rows.counted_apply (rows : Rows) (session : Session σ) :
    (match rows.rows.head? with
      | some row => liftM (Rows.count row)
      | none => return 0 : SessionM σ UInt64) session = (rows.counted, session) := by
  unfold counted
  cases rows.rows.head? with
  | some row => rfl
  | none => rfl

theorem Response.Rows.counted_ne_query (rows : Rows) (reason : String) :
    rows.counted ≠ .error (.query reason) := by
  unfold counted
  cases rows.rows.head? with
  | some row => exact count_ne_query row reason
  | none => exact fun h => by cases h

section Asking

variable [Service σ] {session : Session σ}

/-- Reading on after an action that asked for rows. -/
theorem Ends.andThen {action : SessionM σ α} (hends : Ends Faithful session (action session))
    {next : α → SessionM σ β} (result : α → Except Error β)
    (hnext : ∀ value after, next value after = (result value, after))
    (hquiet : ∀ value reason, result value ≠ .error (.query reason)) :
    Ends Faithful session ((action >>= next) session) := by
  rw [bind_apply result hnext]
  cases hends with
  | refused error hended =>
      rw [hended]
      exact .refused error rfl
  | asked call read hread hcalls hresult =>
      exact .asked call _ (hread.bind hquiet) hcalls (congrArg (Except.bind · result) hresult)

/-- Executing a text is refused or ends with its reply read faithfully. -/
theorem ends_execute (sql : String) (parameters : List Scalar) :
    Ends Faithful session (execute sql parameters session) := by
  by_cases hblank : Text.isBlankText sql = true
  · exact .refused _ (execute_of_blank hblank parameters session)
  · rw [execute_of_not_blank hblank]
    exact .asked (queryCall sql) _ faithful_ofReply rfl rfl

theorem Command.ends_run (runner : Runner) (command : Command) :
    Ends Faithful session (command.run runner session) := by
  cases hrefusal : command.refusal? (session.status runner) with
  | some error => exact .refused error (Command.run_of_refused hrefusal)
  | none =>
      have hsends := Command.sends_of_not_refused hrefusal
      have hread : Faithful fun reply => (Rows.ofReply reply).bind fun _ => .ok () :=
        faithful_ofReply.bind fun _ _ h => by cases h
      refine .asked (queryCall command.sql) _ hread hsends.calls ?_
      have hmap : ∀ ended : Except Error Rows,
          (ended.map fun _ => ()) = ended.bind fun _ => .ok () := by
        intro ended
        cases ended with
        | ok rows => rfl
        | error error => rfl
      exact hsends.result.trans (hmap _)

theorem Statement.ends_execute (statement : Statement) :
    Ends Faithful session (statement.execute session) :=
  .check _ (TwinQuery.ends_execute _ _)

namespace Tables

/-- What is read out of the answer has no part in the session. -/
theorem query_eq (request : QueryRequest) :
    (query request : SessionM σ Rows) = (do
      note (.tableQuery request.table.text request.limit?)
      let answer ← send { method := .post, path := "/tables/query", body? := some request.toJson }
      (do (← Rows.ofJson answer).checked : Except Error Rows)) := by
  have hread : ∀ answer, (do let rows ← Rows.ofJson answer; rows.checked : SessionM σ Rows) =
      liftM (do (← Rows.ofJson answer).checked : Except Error Rows) := by
    intro answer
    cases Rows.ofJson answer with
    | ok rows => rfl
    | error error => rfl
  unfold query
  simp only [hread]

theorem ends_query (request : QueryRequest) : Ends Faithful session (query request session) := by
  rw [query_eq]
  exact .of_send _ _ faithful_ofReply

theorem ends_select (statement : Select) : Ends Faithful session (select statement session) :=
  .check _ (ends_query _)

end Tables

/-- What a table query makes of the rows that it reads. -/
theorem TableQuery.ends_select (statement : Select) (next : Rows → β) :
    Ends Faithful session ((do return next (← Tables.select statement) : SessionM σ β) session) :=
  (Tables.ends_select statement).andThen (fun rows => .ok (next rows)) (fun _ _ => rfl)
    fun _ _ h => by cases h

theorem TableQuery.ends_count (query : TableQuery) :
    Ends Faithful session (query.count session) :=
  .check _ ((TwinQuery.ends_execute _ _).andThen _ Rows.counted_apply Rows.counted_ne_query)

end Asking

/-- An action that asks for rows: the execution of a text or a statement, a call on a runner, a
read request, or a table query that ends in rows, a row, a column, a value or a number. -/
inductive Reading : Type → Type where
  | text (sql : String) (parameters : List Scalar) : Reading Rows
  | statement (written : Statement) : Reading Rows
  | call (runner : Runner) (command : Command) : Reading Unit
  | read (request : QueryRequest) : Reading Rows
  | select (written : Select) : Reading Rows
  | rows (query : TableQuery) : Reading (List Row)
  | first? (query : TableQuery) : Reading (Option Row)
  | exists? (query : TableQuery) : Reading Bool
  | count (query : TableQuery) : Reading UInt64
  | pluck (query : TableQuery) (column : String) : Reading (List Json)
  | value? (query : TableQuery) (column : String) : Reading (Option Json)

namespace Reading

variable [Service σ]

def run : Reading α → SessionM σ α
  | text sql parameters => TwinQuery.execute sql parameters
  | statement written => written.execute
  | call runner command => command.run runner
  | read request => Tables.query request
  | select written => Tables.select written
  | rows query => query.rows
  | first? query => query.first?
  | exists? query => query.exists?
  | count query => query.count
  | pluck query column => query.pluck column
  | value? query column => query.value? column

/-- Every action that asks for rows is refused or reads its reply faithfully. -/
theorem ends_run (reading : Reading α) (session : Session σ) :
    Ends Faithful session (reading.run session) := by
  cases reading with
  | text sql parameters => exact ends_execute sql parameters
  | statement written => exact written.ends_execute
  | call runner command => exact command.ends_run runner
  | read request => exact Tables.ends_query request
  | select written => exact Tables.ends_select written
  | rows query => exact TableQuery.ends_select _ _
  | first? query => exact TableQuery.ends_select _ _
  | exists? query => exact TableQuery.ends_select _ _
  | count query => exact query.ends_count
  | pluck query column => exact TableQuery.ends_select _ _
  | value? query column => exact TableQuery.ends_select _ _

/-- A failure that the service reports is raised exactly where it is not masked. -/
theorem raises_iff_not_masked (reading : Reading α) {session : Session σ} {call : Call}
    {fields : Dictionary Json} (hsent : (reading.run session).2.calls = session.calls ++ [call])
    (hanswer : (Service.respond session.service call).result = .ok (.object fields))
    (hfailure : ReportsFailure fields) :
    (∃ reason, (reading.run session).1 = .error (.query reason)) ↔ ¬Masked fields := by
  obtain ⟨read, hread, hresult⟩ := (reading.ends_run session).of_call hsent
  rw [hresult, hanswer]
  constructor
  case mp =>
    rintro ⟨reason, hraised⟩ hmasked
    obtain ⟨rows, hrows⟩ := Rows.ofReply_of_masked hfailure hmasked
    exact hread.quiet _ rows hrows reason hraised
  case mpr =>
    intro hmasked
    obtain ⟨reason, hraised⟩ := Rows.ofReply_of_not_masked hfailure hmasked
    exact ⟨reason, hread.raised _ _ hraised⟩

/-- A failed commit whose answer holds the error under `data`. -/
theorem raises_iff_not_masked_commit :
    let session := Answering.session
      [("data", .object [("error", .string "deadlock")]), ("success", .bool false)]
    ∃ reason, (Runner.commit ⟨0⟩ session).1 = .error (.query reason) := by
  intro session
  have hsent : ((Reading.call ⟨0⟩ .commit).run session).2.calls =
      session.calls ++ [queryCall "COMMIT"] := rfl
  have hfailure : ReportsFailure session.service.fields := rfl
  have hmasked : ¬Masked session.service.fields := by
    rintro ⟨data, hdata, hclaims⟩
    cases hdata
    cases hclaims
  exact ((Reading.call ⟨0⟩ .commit).raises_iff_not_masked hsent rfl hfailure).2 hmasked

/-- With nothing but an empty object under `data`, a failure that comes with an error is lost: a
text is taken for executed, and a transaction for committed. -/
theorem accepted_of_masked :
    let fields : Dictionary Json :=
      [("data", .object []), ("error", .string "deadlock"), ("success", .bool false)]
    let session := Answering.session fields
    ReportsFailure fields ∧ (TwinQuery.execute "SELECT 1" [] session).1.isOk = true ∧
      (Runner.commit ⟨0⟩ session).1 = .ok () ∧
      (Runner.commit ⟨0⟩ session).2.status ⟨0⟩ = .committed :=
  ⟨rfl, rfl, rfl, rfl⟩

end Reading

/-! ## Writing -/

/-- An action that writes: a request, a statement, or the end of a table query. -/
inductive Writing : Type → Type where
  | insert (request : InsertRequest) : Writing InsertSummary
  | update (request : UpdateRequest) : Writing UpdateSummary
  | delete (request : DeleteRequest) : Writing DeleteSummary
  | insertWith (statement : Insert) : Writing InsertSummary
  | updateWith (statement : Update) : Writing UpdateSummary
  | deleteWith (statement : Delete) : Writing DeleteSummary
  | insertRows (query : TableQuery) (rows : List Record) : Writing InsertSummary
  | updateRows (query : TableQuery) (values : List (String × Scalar)) : Writing UpdateSummary
  | deleteRows (query : TableQuery) : Writing DeleteSummary

namespace Writing

def nothing : Writing α → α
  | insert _ | insertWith _ | insertRows _ _ => ({} : InsertSummary)
  | update _ | updateWith _ | updateRows _ _ => ({} : UpdateSummary)
  | delete _ | deleteWith _ | deleteRows _ => ({} : DeleteSummary)

/-- A way of reading replies that leads through the reading of a summary. -/
def Summarizes (nothing : α) (read : Except Error Json → Except Error α) : Prop :=
  ∃ decode, ReadsSummary decode nothing ∧ read = fun reply => reply.bind decode

variable [Service σ]

def run : Writing α → SessionM σ α
  | insert request => Tables.insert request
  | update request => Tables.update request
  | delete request => Tables.delete request
  | insertWith statement => Tables.insertWith statement
  | updateWith statement => Tables.updateWith statement
  | deleteWith statement => Tables.deleteWith statement
  | insertRows query rows => query.insert rows
  | updateRows query values => query.update values
  | deleteRows query => query.delete

section Requests

variable {session : Session σ}

theorem ends_insert (request : InsertRequest) :
    Ends (Summarizes {}) session (Tables.insert request session) :=
  .of_send _ _ ⟨_, InsertSummary.readsSummary, rfl⟩

theorem ends_update (request : UpdateRequest) :
    Ends (Summarizes {}) session (Tables.update request session) :=
  .of_send _ _ ⟨_, UpdateSummary.readsSummary, rfl⟩

theorem ends_delete (request : DeleteRequest) :
    Ends (Summarizes {}) session (Tables.delete request session) :=
  .of_send _ _ ⟨_, DeleteSummary.readsSummary, rfl⟩

end Requests

/-- Every action that writes is refused or reads its summary out of the reply. -/
theorem ends_run (writing : Writing α) (session : Session σ) :
    Ends (Summarizes writing.nothing) session (writing.run session) := by
  cases writing with
  | insert request => exact ends_insert request
  | update request => exact ends_update request
  | delete request => exact ends_delete request
  | insertWith statement => exact .check _ (ends_insert _)
  | updateWith statement => exact .check _ (ends_update _)
  | deleteWith statement => exact .check _ (ends_delete _)
  | insertRows query rows => exact .check _ (ends_insert _)
  | updateRows query values => exact .check _ (ends_update _)
  | deleteRows query => exact .check _ (ends_delete _)

/-- A failure that comes with an error and without data is raised, with the text of the error, when
null stands under `data`. When the field is left out the failure is overlooked: no such error is
raised, and an answer with nothing else in it is read as a write that did nothing. -/
theorem failure_without_data (writing : Writing α) {session : Session σ} {call : Call}
    {fields : Dictionary Json} {error : Json}
    (hsent : (writing.run session).2.calls = session.calls ++ [call])
    (hanswer : (Service.respond session.service call).result = .ok (.object fields))
    (hfailure : ReportsFailure fields)
    (herror : Dictionary.find? "error" fields = some error) (hnull : error ≠ .null) :
    ∃ reason, errorText? error = some reason ∧
      (Dictionary.find? "data" fields = some .null →
        (writing.run session).1 = .error (.query reason)) ∧
      (Dictionary.find? "data" fields = none →
        (∀ other, (writing.run session).1 ≠ .error (.query other)) ∧
          (Bare fields → (writing.run session).1 = .ok writing.nothing)) := by
  obtain ⟨_, ⟨decode, hdecode, rfl⟩, hresult⟩ := (writing.ends_run session).of_call hsent
  rw [hanswer] at hresult
  have htext : errorText? error ≠ none :=
    fun hnone => hnull ((errorText?_eq_none_iff error).1 hnone)
  obtain ⟨reason, hreason⟩ := Option.ne_none_iff_exists'.1 htext
  have hreported : reportedError? fields = some reason := by
    rw [reportedError?, herror]
    exact hreason
  rw [hresult]
  refine ⟨reason, hreason, fun hdata => ?_, fun hdata => ⟨?_, ?_⟩⟩
  · have hunwrap := unwrap_of_other hfailure hdata fun _ heq => by cases heq
    rw [hreported] at hunwrap
    exact hdecode.raised fields _ hunwrap
  · exact hdecode.overlooked fields hdata
  · exact hdecode.bare fields hdata

def insertion : InsertRequest :=
  { table := ⟨"users"⟩, records := [OrderedMap.empty.set "name" (.text "a")]
    onConflict? := none, batchSize? := none }

/-- A failed insertion whose error is given by its kind and text, with null under `data`. -/
theorem failure_without_data_conflict :
    let session := Answering.session
      [("data", .null), ("error", .object [("Conflict", .string "duplicate key")]),
        ("success", .bool false)]
    (Tables.insert insertion session).1 = .error (.query "Conflict: duplicate key") := by
  intro session
  have hfailure : ReportsFailure session.service.fields := rfl
  have hanswer : ∀ call, (Service.respond session.service call).result =
      .ok (.object session.service.fields) := fun _ => rfl
  obtain ⟨reason, hreason, hraised, _⟩ :=
    (Writing.insert insertion).failure_without_data rfl (hanswer _) hfailure rfl (by simp)
  have htext : reason = "Conflict: duplicate key" := by
    cases hreason
    decide
  rw [← htext]
  exact hraised rfl

/-- With `data` left out, a failed insertion is returned as one that inserted nothing. -/
theorem insert_of_data_left_out :
    let fields : Dictionary Json := [("error", .string "duplicate key"), ("success", .bool false)]
    let session := Answering.session fields
    ReportsFailure fields ∧ (Tables.insert insertion session).1 = .ok {} :=
  ⟨rfl, rfl⟩

end Writing

end TwinQuery
