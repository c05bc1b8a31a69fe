import TwinQuery.Http.Service
import TwinQuery.Proofs.Session.Failure

/-!
# Usage errors

A usage error tells that nothing was sent. Every action makes at most one call to its service, and
it makes none exactly when it ends with a usage error: `Operation.usage_iff_nothing_sent`. So what
is checked before a call raises usage errors only, and what is read out of the reply raises none.
The service itself must not raise any, as the one over HTTP does not: `Http.noUsage_remote`.
-/

namespace TwinQuery

open SessionM Response

variable {σ α β : Type}

/-! ## What is checked before a call -/

/-- Whatever the result may raise is a usage error. -/
def Except.OnlyUsage (checked : Except Error α) : Prop :=
  ∀ error, checked = .error error → error.isUsage = true

theorem Except.onlyUsage_ok (value : α) : Except.OnlyUsage (.ok value) := by
  intro error herror
  cases herror

theorem Except.onlyUsage_error {failure : Error} (husage : failure.isUsage = true) :
    Except.OnlyUsage (.error failure : Except Error α) := by
  intro error herror
  cases herror
  exact husage

/-- The check of a name of a savepoint raises usage errors only. -/
theorem Identifier.onlyUsage_savepoint (name : String) : Except.OnlyUsage (savepoint name) := by
  unfold savepoint
  split
  next => exact Except.onlyUsage_ok _
  next => exact Except.onlyUsage_error rfl

theorem Insert.onlyUsage_validate (insert : Insert) : Except.OnlyUsage insert.validate := by
  unfold validate
  split
  next => exact Except.onlyUsage_error rfl
  next =>
    split
    next => exact Except.onlyUsage_error rfl
    next =>
      split
      next => exact Except.onlyUsage_error rfl
      next => exact Except.onlyUsage_ok _

theorem Statement.onlyUsage_validate (statement : Statement) :
    Except.OnlyUsage statement.validate := by
  cases statement with
  | select statement =>
      change Except.OnlyUsage statement.validate
      unfold Select.validate
      split
      next => exact Except.onlyUsage_error rfl
      next => exact Except.onlyUsage_ok _
  | insert statement => exact statement.onlyUsage_validate
  | update statement =>
      change Except.OnlyUsage statement.validate
      unfold Update.validate
      split
      next => exact Except.onlyUsage_error rfl
      next =>
        split
        next => exact Except.onlyUsage_error rfl
        next => exact Except.onlyUsage_ok _
  | delete statement =>
      change Except.OnlyUsage statement.validate
      unfold Delete.validate
      split
      next => exact Except.onlyUsage_error rfl
      next => exact Except.onlyUsage_ok _

/-- A call that does not fit is refused with a usage error. -/
theorem Command.isUsage_of_refused {command : Command} {status : TransactionStatus} {error : Error}
    (hrefused : command.refusal? status = some error) : error.isUsage = true := by
  cases command with
  | savepoint call name =>
      have hname := Identifier.onlyUsage_savepoint name
      unfold refusal? at hrefused
      grind [Error.isUsage, Except.OnlyUsage]
  | _ => grind [refusal?, Error.isUsage]

/-! ## What is read out of a reply -/

/-- Nothing that the result may raise is a usage error. -/
def Except.NoUsage (result : Except Error α) : Prop :=
  ∀ error, result = .error error → error.isUsage = false

theorem Except.noUsage_ok (value : α) : Except.NoUsage (.ok value) := by
  intro error herror
  cases herror

theorem Except.noUsage_error {failure : Error} (husage : failure.isUsage = false) :
    Except.NoUsage (.error failure : Except Error α) := by
  intro error herror
  cases herror
  exact husage

theorem Except.NoUsage.bind {result : Except Error α} (hresult : Except.NoUsage result)
    {next : α → Except Error β} (hnext : ∀ value, Except.NoUsage (next value)) :
    Except.NoUsage (result.bind next) := by
  cases result with
  | ok value => exact hnext value
  | error failure => exact noUsage_error (hresult failure rfl)

theorem Except.NoUsage.map {result : Except Error α} (hresult : Except.NoUsage result)
    (next : α → β) : Except.NoUsage (result.map next) := by
  cases result with
  | ok value => exact noUsage_ok (next value)
  | error failure => exact noUsage_error (hresult failure rfl)

namespace Response

theorem noUsage_unwrap (answer : Json) : Except.NoUsage (unwrap answer) := by
  intro error hfailed
  obtain ⟨reason, _, rfl⟩ := unwrap_eq_error_iff.1 hfailed
  rfl

theorem noUsage_summary (what : String) (decoder : Json.Decoder α) (answer : Json) :
    Except.NoUsage (summary what decoder answer) := by
  refine (noUsage_unwrap answer).bind fun body => ?_
  split
  next => exact Except.noUsage_ok _
  next => exact Except.noUsage_error rfl

namespace Rows

theorem noUsage_ofJson (answer : Json) : Except.NoUsage (ofJson answer) := by
  refine (noUsage_unwrap answer).bind fun body => ?_
  split
  next => exact Except.noUsage_ok _
  next => exact Except.noUsage_error rfl

theorem noUsage_checked (rows : Rows) : Except.NoUsage rows.checked := by
  unfold checked
  split
  next => exact Except.noUsage_ok _
  next => exact Except.noUsage_error rfl

/-- Rows are read out of a reply without a usage error, if the reply itself is none. -/
theorem noUsage_ofReply {reply : Except Error Json} (hreply : Except.NoUsage reply) :
    Except.NoUsage (ofReply reply) :=
  hreply.bind fun answer => (noUsage_ofJson answer).bind noUsage_checked

theorem noUsage_count (row : Row) : Except.NoUsage (count row) := by
  intro error herror
  obtain ⟨reason, rfl⟩ := eq_decode_of_count herror
  rfl

theorem noUsage_counted (rows : Rows) : Except.NoUsage rows.counted := by
  unfold counted
  split
  next row _ => exact noUsage_count row
  next => exact Except.noUsage_ok _

end Rows

theorem InsertSummary.noUsage_ofJson (answer : Json) : Except.NoUsage (ofJson answer) :=
  noUsage_summary _ _ answer

theorem UpdateSummary.noUsage_ofJson (answer : Json) : Except.NoUsage (ofJson answer) :=
  noUsage_summary _ _ answer

theorem DeleteSummary.noUsage_ofJson (answer : Json) : Except.NoUsage (ofJson answer) :=
  (noUsage_unwrap answer).bind fun _ => noUsage_summary _ _ _

end Response

/-! ## Actions of at most one call -/

/-- A service none of whose own errors is a usage error. -/
def Service.NoUsage (σ : Type) [Service σ] : Prop :=
  ∀ (service : σ) (call : Call), Except.NoUsage (Service.respond service call).result

/-- How an action ends that starts in a session: it is refused there with a usage error, or makes
one call and ends with none. -/
inductive Settles (session : Session σ) (ended : Except Error α × Session σ) : Prop where
  | refused (error : Error) (husage : error.isUsage = true)
      (hended : ended = (.error error, session))
  | sent (call : Call) (hcalls : ended.2.calls = session.calls ++ [call])
      (hresult : Except.NoUsage ended.1)

namespace Settles

variable {session : Session σ}

/-- The number of calls tells whether an action ended with a usage error. -/
theorem usage_iff {ended : Except Error α × Session σ} (hsettles : Settles session ended) :
    ∃ sent, ended.2.calls = session.calls ++ sent ∧ sent.length ≤ 1 ∧
      (sent = [] ↔ ∃ error, ended.1 = .error error ∧ error.isUsage = true) := by
  cases hsettles with
  | refused error husage hended =>
      rw [hended]
      exact ⟨[], (List.append_nil _).symm, Nat.zero_le 1, fun _ => ⟨error, rfl, husage⟩,
        fun _ => rfl⟩
  | sent call hcalls hresult =>
      refine ⟨[call], hcalls, Nat.le_refl 1, fun hnil => absurd hnil (List.cons_ne_nil _ _), ?_⟩
      rintro ⟨error, herror, husage⟩
      rw [hresult error herror] at husage
      cases husage

/-- A check that raises usage errors only may stand in front of an action that settles. -/
theorem check {action : SessionM σ α} {checked : Except Error Unit}
    (hchecked : Except.OnlyUsage checked) (hsettles : Settles session (action session)) :
    Settles session ((do checked; action : SessionM σ α) session) := by
  cases checked with
  | error error => exact .refused error (hchecked error rfl) rfl
  | ok _ => exact hsettles

/-- What is made of the answer without another call, and without a usage error, settles too. -/
theorem andThen {action : SessionM σ α} (hsettles : Settles session (action session))
    {next : α → SessionM σ β} (result : α → Except Error β)
    (hnext : ∀ value after, next value after = (result value, after))
    (hresult : ∀ value, Except.NoUsage (result value)) :
    Settles session ((action >>= next) session) := by
  rw [bind_apply result hnext]
  cases hsettles with
  | refused error husage hended =>
      rw [hended]
      exact .refused error husage rfl
  | sent call hcalls hread => exact .sent call hcalls (hread.bind hresult)

theorem map {action : SessionM σ α} (hsettles : Settles session (action session)) (next : α → β) :
    Settles session ((do return next (← action) : SessionM σ β) session) :=
  hsettles.andThen (fun value => .ok (next value)) (fun _ _ => rfl) fun _ => Except.noUsage_ok _

end Settles

section Settling

variable [Service σ] {session : Session σ}

/-- A call whose answer is read without usage errors settles with it. -/
theorem Settles.of_send (hservice : Service.NoUsage σ) (event : Event) (call : Call)
    {read : Json → Except Error α} (hread : ∀ answer, Except.NoUsage (read answer)) :
    Settles session
      ((do note event; let answer ← send call; read answer : SessionM σ α) session) := by
  rw [ask_apply]
  exact .sent call rfl ((hservice session.service call).bind hread)

theorem noUsage_answer (hservice : Service.NoUsage σ) (session : Session σ) (sql : String) :
    Except.NoUsage (session.answer sql) :=
  Rows.noUsage_ofReply (hservice session.service (queryCall sql))

/-- Executing a text is refused with a usage error or makes one call. -/
theorem settles_execute (hservice : Service.NoUsage σ) (sql : String) (parameters : List Scalar) :
    Settles session (execute sql parameters session) := by
  by_cases hblank : Text.isBlankText sql = true
  · exact .refused _ rfl (execute_of_blank hblank parameters session)
  · rw [execute_of_not_blank hblank]
    exact .sent (queryCall sql) rfl (noUsage_answer hservice session sql)

theorem Command.settles_run (hservice : Service.NoUsage σ) (runner : Runner) (command : Command) :
    Settles session (command.run runner session) := by
  cases hrefusal : command.refusal? (session.status runner) with
  | some error =>
      exact .refused error (Command.isUsage_of_refused hrefusal) (Command.run_of_refused hrefusal)
  | none =>
      have hsends := Command.sends_of_not_refused hrefusal
      refine .sent (queryCall command.sql) hsends.calls ?_
      rw [hsends.result]
      exact (noUsage_answer hservice session command.sql).map _

namespace Tables

theorem settles_query (hservice : Service.NoUsage σ) (request : QueryRequest) :
    Settles session (query request session) := by
  rw [query_eq]
  exact .of_send hservice _ _ fun answer => Rows.noUsage_ofReply (Except.noUsage_ok answer)

theorem settles_select (hservice : Service.NoUsage σ) (statement : Select) :
    Settles session (select statement session) :=
  .check (Statement.select statement).onlyUsage_validate (settles_query hservice _)

theorem settles_insert (hservice : Service.NoUsage σ) (request : InsertRequest) :
    Settles session (insert request session) :=
  .of_send hservice _ _ InsertSummary.noUsage_ofJson

theorem settles_insertWith (hservice : Service.NoUsage σ) (statement : Insert) :
    Settles session (insertWith statement session) :=
  .check (Statement.insert statement).onlyUsage_validate (settles_insert hservice _)

theorem settles_update (hservice : Service.NoUsage σ) (request : UpdateRequest) :
    Settles session (update request session) :=
  .of_send hservice _ _ UpdateSummary.noUsage_ofJson

theorem settles_updateWith (hservice : Service.NoUsage σ) (statement : Update) :
    Settles session (updateWith statement session) :=
  .check (Statement.update statement).onlyUsage_validate (settles_update hservice _)

theorem settles_delete (hservice : Service.NoUsage σ) (request : DeleteRequest) :
    Settles session (delete request session) :=
  .of_send hservice _ _ DeleteSummary.noUsage_ofJson

theorem settles_deleteWith (hservice : Service.NoUsage σ) (statement : Delete) :
    Settles session (deleteWith statement session) :=
  .check (Statement.delete statement).onlyUsage_validate (settles_delete hservice _)

end Tables

/-- Every action that asks for rows settles. -/
theorem Reading.settles_run (hservice : Service.NoUsage σ) (reading : Reading α) :
    Settles session (reading.run session) := by
  cases reading with
  | text sql parameters => exact settles_execute hservice sql parameters
  | statement written => exact .check written.onlyUsage_validate (settles_execute hservice _ _)
  | call runner command => exact command.settles_run hservice runner
  | read request => exact Tables.settles_query hservice request
  | select written => exact Tables.settles_select hservice written
  | rows query => exact (Tables.settles_select hservice _).map _
  | first? query => exact (Tables.settles_select hservice _).map _
  | exists? query => exact (Tables.settles_select hservice _).map _
  | count query =>
      exact .check (Statement.select query.select).onlyUsage_validate
        ((settles_execute hservice _ _).andThen _ Rows.counted_apply Rows.noUsage_counted)
  | pluck query column => exact (Tables.settles_select hservice _).map _
  | value? query column => exact (Tables.settles_select hservice _).map _

theorem Writing.settles_run (hservice : Service.NoUsage σ) (writing : Writing α) :
    Settles session (writing.run session) := by
  cases writing with
  | insert request => exact Tables.settles_insert hservice request
  | update request => exact Tables.settles_update hservice request
  | delete request => exact Tables.settles_delete hservice request
  | insertWith statement => exact Tables.settles_insertWith hservice statement
  | updateWith statement => exact Tables.settles_updateWith hservice statement
  | deleteWith statement => exact Tables.settles_deleteWith hservice statement
  | insertRows query rows => exact Tables.settles_insertWith hservice _
  | updateRows query values => exact Tables.settles_updateWith hservice _
  | deleteRows query => exact Tables.settles_deleteWith hservice _

end Settling

/-- An action that calls the service: one that asks for rows, the transaction calls among them, or
one that writes. -/
inductive Operation (α : Type) where
  | read (reading : Reading α)
  | write (writing : Writing α)

namespace Operation

variable [Service σ]

def run : Operation α → SessionM σ α
  | read reading => reading.run
  | write writing => writing.run

/-- Every operation makes at most one call, and it makes none exactly when it ends with a usage
error. -/
theorem usage_iff_nothing_sent (hservice : Service.NoUsage σ) (operation : Operation α)
    (session : Session σ) :
    ∃ sent, (operation.run session).2.calls = session.calls ++ sent ∧ sent.length ≤ 1 ∧
      (sent = [] ↔
        ∃ error, (operation.run session).1 = .error error ∧ error.isUsage = true) := by
  cases operation with
  | read reading => exact (reading.settles_run hservice).usage_iff
  | write writing => exact (writing.settles_run hservice).usage_iff

/-- The service that answers every call with the same fields raises no errors at all. -/
theorem noUsage_answering : Service.NoUsage Answering :=
  fun _ _ => Except.noUsage_ok _

/-- A count that is answered with a row without columns fails, but not before the call. -/
theorem usage_iff_nothing_sent_count :
    let operation := Operation.read (.count ⟨{ table := ⟨"users"⟩ }⟩)
    let session := Answering.session [("rows", .array [.object []])]
    Service.NoUsage Answering ∧
      ∃ sent, (operation.run session).2.calls = session.calls ++ sent ∧ sent.length ≤ 1 ∧
        (sent = [] ↔
          ∃ error, (operation.run session).1 = .error error ∧ error.isUsage = true) :=
  ⟨noUsage_answering, usage_iff_nothing_sent noUsage_answering _ _⟩

end Operation

/-! ## The service over HTTP -/

namespace Http

/-- A request that cannot be made is no usage error of the caller. -/
theorem Endpoint.noUsage_request (endpoint : Endpoint) (call : Call) :
    Except.NoUsage (endpoint.request call) := by
  have hurl : Except.NoUsage (endpoint.url call.path) := by
    unfold url
    split
    next => exact Except.noUsage_ok _
    next => exact Except.noUsage_error rfl
  exact hurl.map _

/-- Whatever a reply over HTTP stands for, it is no usage error. -/
theorem noUsage_read (call : Call) (reply : Http.Response) :
    Except.NoUsage (read call reply).1 := by
  unfold read
  simp only
  split
  next =>
    split
    next => exact Except.noUsage_ok _
    next => exact Except.noUsage_error rfl
  next => exact Except.noUsage_error rfl

/-- Whatever the network does, an error of the service over HTTP is no usage error. -/
theorem noUsage_remote (ν : Type) [Network ν] : Service.NoUsage (Remote ν) := by
  intro remote call
  have hrequest := remote.endpoint.noUsage_request call
  simp only [Service.respond]
  generalize remote.endpoint.request call = made at hrequest ⊢
  cases made with
  | error failure => exact Except.noUsage_error (hrequest failure rfl)
  | ok request =>
      simp only
      split
      next reply _ => exact noUsage_read call reply
      next => exact Except.noUsage_error rfl

end Http

end TwinQuery
