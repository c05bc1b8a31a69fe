import TwinQuery.Proofs.Session.Failure
import TwinQuery.Proofs.Statement.Refusal

/-!
# What table queries delegate

A table query adds nothing of its own to the statements. After any steps, each of its ends is a call
that statements built by the same steps allow as well, and what is read out of the answer:
`TableQuery.delegates`. In particular a count has the conditions of the read and nothing of its
order and page, and an insertion does not depend on the conditions.
-/

namespace TwinQuery

open SessionM Response

variable {σ : Type}

/-! ## The text of a count -/

/-- Without values the text of a template is the same in every style. -/
theorem Bindings.fst_fill_of_values {template : Template} (hvalues : template.values = [])
    (first second : Bindings) : (first.fill template).1 = (second.fill template).1 := by
  induction template with
  | nil => rfl
  | cons piece rest ih =>
      cases piece with
      | slot value => cases hvalues
      | text fixed => exact congrArg (fixed ++ ·) (ih hvalues)

namespace Select

def tail (select : Select) : Template :=
  select.sortTail ++ numberTail " LIMIT " select.limit? ++ numberTail " OFFSET " select.offset?

theorem values_numberTail (keyword : String) (n? : Option UInt64) :
    (numberTail keyword n?).values = [] := by
  cases n? <;> rfl

theorem values_tail (select : Select) : select.tail.values = [] := by
  have hsort : select.sortTail.values = [] := by
    unfold sortTail
    split <;> rfl
  rw [tail, Template.values_append, Template.values_append, hsort, values_numberTail,
    values_numberTail]
  rfl

def countSql (select : Select) : String :=
  (Bindings.inline.fill select.countTemplate).1

def whereSql (select : Select) : String :=
  (Bindings.inline.fill select.conditions.whereTail).1

def tailSql (select : Select) : String :=
  (Bindings.inline.fill select.tail).1

variable {select : Select}

theorem fault?_of_valid (hvalid : select.validate = .ok ()) : select.fault? = none := by
  unfold validate at hvalid
  cases hfault : select.fault? with
  | none => rfl
  | some fault => simp [hfault] at hvalid

theorem eq_validation_of_invalid {error : Error} (hinvalid : select.validate = .error error) :
    ∃ reason, error = .validation reason := by
  unfold validate at hinvalid
  cases hfault : select.fault? with
  | none => simp [hfault] at hinvalid
  | some fault =>
      rw [hfault] at hinvalid
      exact ⟨fault, (Except.error.inj hinvalid).symm⟩

/-- A valid read begins with its columns and its table, which are followed by the conditions. -/
theorem template_of_valid (hvalid : select.validate = .ok ()) :
    select.template =
      .text ("SELECT " ++ ", ".intercalate (select.columns.map Identifier.projection) ++
          " FROM " ++ Identifier.quote select.table.text) ::
        (select.conditions.whereTail ++ select.tail) := by
  unfold template tail
  rw [fault?_of_valid hvalid]
  simp [List.append_assoc]

/-- A count has the table and the conditions of the read. -/
theorem countSql_of_valid (hvalid : select.validate = .ok ()) :
    select.countSql =
      "SELECT COUNT(*) FROM " ++ Identifier.quote select.table.text ++ select.whereSql := by
  have hfault := fault?_of_valid hvalid
  unfold countSql countTemplate
  rw [hfault]
  rfl

/-- The text of a read: its projection, its table, its conditions, and what stands behind them. -/
theorem sql_of_valid (hvalid : select.validate = .ok ()) :
    (Statement.select select).sql =
      "SELECT " ++ ", ".intercalate (select.columns.map Identifier.projection) ++ " FROM " ++
        Identifier.quote select.table.text ++ select.whereSql ++ select.tailSql := by
  have htemplate := template_of_valid hvalid
  have htail := Bindings.fst_fill_of_values select.values_tail
    (Bindings.inline.fill select.conditions.whereTail).2 .inline
  change (Bindings.inline.fill select.template).1 = _
  rw [htemplate, Bindings.fill, Bindings.fill_append, htail]
  exact (String.append_assoc ..).symm

/-- A count has the values of the read, which are those of the conditions. -/
theorem values_countTemplate (select : Select) :
    (Bindings.inline.fill select.countTemplate).2.values = (Statement.select select).bindings := by
  change _ = (Bindings.inline.fill select.template).2.values
  rw [Bindings.values_fill, Bindings.values_fill]
  cases hfault : select.fault? with
  | some fault => simp [countTemplate, template, hfault]
  | none =>
      have hvalid : select.validate = .ok () := by rw [validate, hfault]
      rw [template_of_valid hvalid, Template.values, Template.values_append, select.values_tail,
        List.append_nil]
      simp [countTemplate, hfault, Template.values]

end Select

/-! ## Ends of a query -/

/-- Read the rows of a select statement by a request that may differ from its own. -/
def Tables.selectBy [Service σ] (statement : Select) (request : QueryRequest) :
    SessionM σ Rows := do
  statement.validate
  query request

/-- The columns of a request for one column. For `*`, which stands for all of them, they are left
out. -/
def QueryRequest.only? (column : String) : Option (List String) :=
  if column = "*" then none else some [column]

namespace TableQuery

/-- Every end of a query is a call of statements: of a read, or of a write with the same conditions
or rows. -/
structure Delegates (σ : Type) [Service σ] (query : TableQuery) (select : Select)
    (conditions : List Conditions.Step) : Prop where
  rows : ∀ session : Session σ, query.rows session =
    Prod.map (Except.map Rows.rows) id (Tables.select select session)
  /-- The request of the read goes out with its limit replaced. -/
  first : ∀ session : Session σ, query.first? session =
    Prod.map (Except.map fun answer => answer.rows.head?) id
      (Tables.selectBy select { select.request with limit? := some 1 } session)
  /-- The limit and the columns are replaced. -/
  exist : ∀ session : Session σ, query.exists? session =
    Prod.map (Except.map fun answer => !answer.rows.isEmpty) id
      (Tables.selectBy select { select.request with columns? := some ["1"], limit? := some 1 }
        session)
  /-- The columns are replaced. -/
  pluck : ∀ (column : String) (session : Session σ), query.pluck column session =
    Prod.map (Except.map fun answer => answer.pluck column) id
      (Tables.selectBy select { select.request with columns? := QueryRequest.only? column } session)
  /-- The limit and the columns are replaced. -/
  value : ∀ (column : String) (session : Session σ), query.value? column session =
    Prod.map (Except.map fun answer => answer.rows.head?.map fun row =>
        (Dictionary.find? column row).getD .null) id
      (Tables.selectBy select
        { select.request with columns? := QueryRequest.only? column, limit? := some 1 } session)
  /-- A count executes the text that counts, and reads the number out of the answer. -/
  count : select.validate = .ok () → ∀ session : Session σ, query.count session =
    Prod.map (Except.bind · Rows.counted) id
      (execute select.countSql (Statement.select select).bindings session)
  /-- Behind the table, the text that counts has the conditions of the read and nothing else. -/
  count_text : select.validate = .ok () →
    select.countSql =
        "SELECT COUNT(*) FROM " ++ Identifier.quote select.table.text ++ select.whereSql ∧
      (Statement.select select).sql =
        "SELECT " ++ ", ".intercalate (select.columns.map Identifier.projection) ++ " FROM " ++
          Identifier.quote select.table.text ++ select.whereSql ++ select.tailSql
  count_bindings : (Bindings.inline.fill select.countTemplate).2.values =
    (Statement.select select).bindings
  count_invalid : ∀ error, select.validate = .error error →
    (∃ reason, error = .validation reason) ∧
      ∀ session : Session σ, query.count session = (.error error, session)
  /-- The values may be assigned before, among or after the steps of the conditions. -/
  update : ∀ (values : List (String × Scalar)) (before after : List Conditions.Step),
    conditions = before ++ after → ∀ session : Session σ, query.update values session =
      Tables.updateWith (Update.build select.table
        (before.map .condition ++ .setAll values :: after.map .condition)) session
  delete : ∀ session : Session σ, query.delete session =
    Tables.deleteWith (Delete.build select.table (conditions.map .condition)) session
  /-- The conditions have no part in an insertion, whether they are valid or not. -/
  insert : ∀ (rows : List Record) (session : Session σ), query.insert rows session =
    Tables.insertWith (Insert.build select.table [.rows rows]) session

section Statements

variable (table : TableName) (steps : List Select.Step)

/-- The update of a query is built from the same conditions, and it does not matter between which of
them its values are set. -/
theorem updateStatement_build (values : List (String × Scalar))
    {before after : List Conditions.Step}
    (hconditions : steps.filterMap Select.Step.condition? = before ++ after) :
    (build table steps).updateStatement values = Update.build table
      (before.map .condition ++ .setAll values :: after.map .condition) := by
  have hbuild : Update.build table
      (before.map .condition ++ .setAll values :: after.map .condition) =
        (after.map .condition).foldl Update.step
          (((before.map .condition).foldl Update.step { table }).setAll values) :=
    List.foldl_append
  rw [hbuild, Update.foldl_condition, Update.foldl_condition, Update.setAll_withConditions,
    updateStatement, select_build, Select.table_build, Select.conditions_build, hconditions,
    List.foldl_append]

/-- The deletion of a query is built from the same conditions. -/
theorem deleteStatement_build :
    (build table steps).deleteStatement = Delete.build table
      ((steps.filterMap Select.Step.condition?).map .condition) := by
  rw [Delete.build, Delete.foldl_condition, deleteStatement, select_build, Select.table_build,
    Select.conditions_build]

/-- The insertion of a query is one step with the rows, so its conditions play no part. -/
theorem insertStatement_build (rows : List Record) :
    (build table steps).insertStatement rows = Insert.build table [.rows rows] := by
  rw [insertStatement, select_build, Select.table_build]
  rfl

end Statements

/-- Reading one column asks for that column alone and leaves the rest of the request as it is. -/
theorem request_project (select : Select) (column : String) :
    (select.project [column]).request =
      { select.request with columns? := QueryRequest.only? column } := by
  unfold QueryRequest.only?
  split
  next hall => simp [Select.request, Select.project, Select.isAll, hall]
  next hother => simp [Select.request, Select.project, Select.isAll, hother]

/-- Whatever steps a query goes through, faulty ones among them, and whatever service answers it,
each of its ends sends and returns what the calls of the statements do. -/
theorem delegates (σ : Type) [Service σ] (table : TableName) (steps : List Select.Step) :
    (build table steps).Delegates σ (Select.build table steps)
      (steps.filterMap Select.Step.condition?) := by
  have hselect := select_build table steps
  have htable := Select.table_build table steps
  constructor
  case rows =>
    intro session
    rw [← hselect]
    exact map_apply _ _ session
  case first =>
    intro session
    rw [← hselect]
    exact map_apply _ _ session
  case exist =>
    intro session
    rw [← hselect]
    exact map_apply _ _ session
  case pluck =>
    intro column session
    rw [← hselect, ← request_project]
    exact map_apply _ _ session
  case value =>
    intro column session
    have hrequest := congrArg (fun request => { request with limit? := some 1 })
      (request_project (Select.build table steps) column)
    rw [← hrequest, ← hselect]
    exact map_apply _ _ session
  case count =>
    intro hvalid session
    rw [← Select.values_countTemplate]
    rw [← hselect] at hvalid ⊢
    unfold TableQuery.count
    rw [hvalid]
    exact bind_apply Rows.counted Rows.counted_apply session
  case count_text =>
    exact fun hvalid => ⟨Select.countSql_of_valid hvalid, Select.sql_of_valid hvalid⟩
  case count_bindings => exact Select.values_countTemplate _
  case count_invalid =>
    intro error hinvalid
    refine ⟨Select.eq_validation_of_invalid hinvalid, fun session => ?_⟩
    rw [← hselect] at hinvalid
    unfold TableQuery.count
    rw [hinvalid]
    rfl
  case update =>
    intro values before after hconditions session
    rw [update, updateStatement_build table steps values hconditions, htable]
  case delete =>
    intro session
    rw [delete, deleteStatement_build, htable]
  case insert =>
    intro rows session
    rw [insert, insertStatement_build, htable]

/-- With `*` asked for as the one column, what is sent is the request of the read as it is, without
any columns, and not one whose columns are `*`. -/
theorem columns_left_out_of_all :
    let query := build ⟨"users"⟩ []
    let session := Answering.session [("rows", .array [])]
    let sends (request : QueryRequest) : List Call :=
      [{ method := .post, path := "/tables/query", body? := some request.toJson }]
    (query.pluck "*" session).2.calls = sends query.select.request ∧
      (query.pluck "*" session).2.calls ≠
        sends { query.select.request with columns? := some ["*"] } := by
  intro query session sends
  refine ⟨rfl, fun hcalls => ?_⟩
  have hcolumns := congrArg (fun calls : List Call =>
    calls.map fun call => (call.body?.bind (Json.field? "columns")).isSome) hcalls
  exact absurd hcolumns (by decide)

end TableQuery

end TwinQuery
