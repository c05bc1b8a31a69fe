import TwinQuery.Proofs.Sql.Lexical
import TwinQuery.Proofs.Statement.Body
import TwinQuery.Proofs.Statement.Building

/-!
# The two forms of a statement

A statement is written as text and as a JSON body by two independent writers. What a reader
recovers from the text agrees with the body: `Statement.text_agrees_with_body`. The text shows a
condition for every filter, in order, and the map of the filters in the body shows for every
column the condition of the last filter on it.
-/

namespace TwinQuery

open Sql

/-! ## Agreement -/

/-- The conditions of a text and the map of a body come from the same filters. -/
structure FiltersAgree (filters : List Filter) (conditions : List Condition) (body : Json) :
    Prop where
  /-- The text has one condition for each filter, in order. -/
  conditions_eq : conditions = filters.map Filter.condition
  /-- The map has one entry for each column, that of the last filter on it. -/
  entries_eq : ∃ entries, filtersOfJson? (body.field? "filters") = some entries ∧
    ∀ column, (Dictionary.find? column entries).map (Condition.ofJson? column) =
      (lastOn column filters).map fun filter => some filter.condition

/-- The text and the body of a read say the same. -/
structure SelectAgrees (filters : List Filter) (table : String) (projection : List Projected)
    (conditions : List Condition) (sort : List SortField) (limit? offset? : Option Nat)
    (body : Json) : Prop where
  table_eq : body.field? "table_name" = some (.string table)
  projection_eq : projectionOfJson? (body.field? "columns") = some projection
  /-- The columns are left out exactly when the projection is `*` alone. -/
  columns_absent_iff : body.field? "columns" = none ↔ projection = [.all]
  filters_agree : FiltersAgree filters conditions body
  sort_eq : sortOfJson? (body.field? "sort") = some sort
  limit_eq : numberOfJson? (body.field? "limit") = some limit?
  offset_eq : numberOfJson? (body.field? "offset") = some offset?

/-- The text and the body of an update say the same. -/
structure UpdateAgrees (filters : List Filter) (table : String)
    (assignments : List (String × Assigned)) (conditions : List Condition) (body : Json) :
    Prop where
  table_eq : body.field? "table_name" = some (.string table)
  /-- No column is assigned twice. -/
  columns_nodup : (assignments.map Prod.fst).Nodup
  /-- The map of the assignments has the same columns, each with the same value or amount. -/
  assignments_eq : ∃ entries, (body.field? "updates").bind Json.fields? = some entries ∧
    ∀ column, (Dictionary.find? column entries).map Assigned.ofJson? =
      (assignments.lookup column).map some
  filters_agree : FiltersAgree filters conditions body

/-- The text and the body of a deletion say the same. -/
structure DeleteAgrees (filters : List Filter) (table : String) (conditions : List Condition)
    (body : Json) : Prop where
  table_eq : body.field? "table_name" = some (.string table)
  filters_agree : FiltersAgree filters conditions body

/-- What a text says agrees with a body. -/
def Sql.Description.Agrees (filters : List Filter) (body : Json) : Description → Prop
  | select table projection conditions sort limit? offset? =>
      SelectAgrees filters table projection conditions sort limit? offset? body
  | update table assignments conditions =>
      UpdateAgrees filters table assignments conditions body
  | delete table conditions => DeleteAgrees filters table conditions body

/-! ## The fields of the bodies -/

theorem QueryRequest.field?_toJson (request : QueryRequest) :
    request.toJson.field? "table_name" = some (.string request.table.text) ∧
      request.toJson.field? "columns" =
        request.columns?.map (fun columns => .array (columns.map Json.string)) ∧
      request.toJson.field? "filters" = request.filters?.map filtersJson ∧
      request.toJson.field? "sort" =
        request.sort?.map (fun sort => .array (sort.map SortField.toJson)) ∧
      request.toJson.field? "limit" = request.limit?.map unsignedJson ∧
      request.toJson.field? "offset" = request.offset?.map unsignedJson := by
  refine ⟨?_, ?_, ?_, ?_, ?_, ?_⟩ <;>
    simp [QueryRequest.toJson, Json.field?_ofFields, Json.reverse_optional, List.lookup_append,
      Json.lookup_optional, List.lookup_cons]

theorem UpdateRequest.field?_toJson (request : UpdateRequest) :
    request.toJson.field? "table_name" = some (.string request.table.text) ∧
      request.toJson.field? "updates" =
        some (.object (request.updates.map fun (column, assignment) =>
          (column, assignment.toJson))) ∧
      request.toJson.field? "filters" = some (filtersJson request.filters) ∧
      request.toJson.field? "optimistic_lock_version" =
        request.lockVersion?.map unsignedJson := by
  refine ⟨?_, ?_, ?_, ?_⟩ <;>
    simp [UpdateRequest.toJson, Json.field?_ofFields, Json.reverse_optional, List.lookup_append,
      Json.lookup_optional, List.lookup_cons]

theorem DeleteRequest.field?_toJson (request : DeleteRequest) :
    request.toJson.field? "table_name" = some (.string request.table.text) ∧
      request.toJson.field? "filters" = some (filtersJson request.filters) ∧
      request.toJson.field? "cascade" = request.cascade?.map Json.bool ∧
      request.toJson.field? "soft_delete" = request.softDelete?.map Json.bool := by
  refine ⟨?_, ?_, ?_, ?_⟩ <;>
    simp [DeleteRequest.toJson, Json.field?_ofFields, Json.reverse_optional, List.lookup_append,
      Json.lookup_optional, List.lookup_cons]

/-- The map of the filters agrees with the clause. -/
theorem Conditions.filtersAgree (conditions : Conditions) {body : Json}
    (hbody : filtersOfJson? (body.field? "filters") =
      some (conditions.toDictionary.map fun (column, entry) => (column, entry.toJson))) :
    FiltersAgree conditions.filters (conditions.filters.map Filter.condition) body where
  conditions_eq := rfl
  entries_eq := by
    refine ⟨_, hbody, fun column => ?_⟩
    rw [Dictionary.find?_map, find?_toDictionary, Option.map_map, Option.map_map]
    cases hlast : lastOn column conditions.filters with
    | none => rfl
    | some filter =>
        have hcolumn : filter.column = column := by
          have hfound := List.find?_some hlast
          simpa using hfound
        have hentry := Condition.ofJson?_entry filter
        rw [hcolumn] at hentry
        exact congrArg some hentry

/-! ## Reading both forms -/

theorem Select.isAll_iff (select : Select) : select.isAll = true ↔ select.columns = ["*"] := by
  unfold isAll
  split
  next column heq => simp [heq]
  next hne =>
    constructor
    · intro h
      exact Bool.noConfusion h
    · intro h
      exact (hne "*" h).elim

/-- A projection is read as everything exactly where it is `*` alone. -/
theorem Sql.Projected.map_ofEntry_eq_all_iff (columns : List String) :
    columns.map Projected.ofEntry = [.all] ↔ columns = ["*"] := by
  constructor
  · intro h
    obtain ⟨entry, rfl, hentry⟩ := List.map_eq_singleton_iff.1 h
    unfold Projected.ofEntry at hentry
    split at hentry
    next hall => rw [hall]
    next => exact Projected.noConfusion hentry
  · intro h
    rw [h]
    rfl

/-- The filters of a read, left out where there is none, are those of its conditions. -/
theorem Select.filtersOfJson?_request (select : Select) :
    filtersOfJson? (select.request.toJson.field? "filters") =
      some (select.conditions.toDictionary.map fun (column, entry) =>
        (column, entry.toJson)) := by
  obtain ⟨-, -, hfilters, -⟩ := select.request.field?_toJson
  rw [hfilters, request]
  by_cases hempty : select.conditions.filters.isEmpty = true
  · simp [Conditions.toDictionary, Dictionary.ofList, List.isEmpty_iff.1 hempty, filtersOfJson?]
  · rw [if_neg hempty]
    rfl

/-- What the text of a read says is in its body. -/
theorem Select.agrees (select : Select) :
    select.description.Agrees select.conditions.filters select.request.toJson := by
  obtain ⟨htable, hcolumns, -, hsort, hlimit, hoffset⟩ := select.request.field?_toJson
  refine ⟨htable, ?_, ?_, ?_, ?_, ?_, ?_⟩
  · rw [hcolumns, request]
    by_cases hall : select.isAll = true
    · rw [if_pos hall, select.isAll_iff.1 hall]
      rfl
    · rw [if_neg hall]
      exact projectionOfJson?_array select.columns
  · rw [hcolumns, request, Projected.map_ofEntry_eq_all_iff, ← select.isAll_iff]
    by_cases hall : select.isAll = true <;> simp [hall]
  · exact select.conditions.filtersAgree select.filtersOfJson?_request
  · rw [hsort, request]
    by_cases hempty : select.sort.isEmpty = true
    · rw [if_pos hempty, List.isEmpty_iff.1 hempty]
      rfl
    · rw [if_neg hempty]
      exact sortOfJson?_array select.sort
  · rw [hlimit]
    exact numberOfJson?_unsigned select.limit?
  · rw [hoffset]
    exact numberOfJson?_unsigned select.offset?

/-- The map of a body has for each column the assignment that the text shows. -/
theorem Update.find?_updates (update : Update) (column : String) :
    (Dictionary.find? column (update.request.updates.map fun (column, assignment) =>
        (column, assignment.toJson))).map Assigned.ofJson? =
      ((update.assignments.entries.map fun entry =>
        (entry.1, entry.2.assigned)).lookup column).map some := by
  have hlast : Dictionary.find? column update.request.updates =
      update.assignments.entries.lookup column := by
    rw [request, Dictionary.find?_ofList, lookup_reverse update.assignments.distinct]
  have hassigned := Dictionary.find?_map column Assignment.assigned update.assignments.entries
  rw [Dictionary.find?_map, hlast, Option.map_map]
  refine Eq.trans ?_ (congrArg (Option.map some) hassigned.symm)
  rw [Option.map_map, Dictionary.find?]
  congr 1
  funext assignment
  exact Assigned.ofJson?_toJson assignment

theorem Update.filtersOfJson?_request (update : Update) :
    filtersOfJson? (update.request.toJson.field? "filters") =
      some (update.conditions.toDictionary.map fun (column, entry) =>
        (column, entry.toJson)) := by
  rw [update.request.field?_toJson.2.2.1]
  rfl

theorem Update.fields?_updates (update : Update) :
    (update.request.toJson.field? "updates").bind Json.fields? =
      some (update.request.updates.map fun (column, assignment) =>
        (column, assignment.toJson)) := by
  rw [update.request.field?_toJson.2.1]
  rfl

/-- What the text of an update says is in its body. -/
theorem Update.agrees (update : Update) :
    update.description.Agrees update.conditions.filters update.request.toJson := by
  refine ⟨update.request.field?_toJson.1, ?_, ⟨_, update.fields?_updates, update.find?_updates⟩, ?_⟩
  · rw [List.map_map]
    exact update.assignments.distinct
  · exact update.conditions.filtersAgree update.filtersOfJson?_request

theorem Delete.filtersOfJson?_request (delete : Delete) :
    filtersOfJson? (delete.request.toJson.field? "filters") =
      some (delete.conditions.toDictionary.map fun (column, entry) =>
        (column, entry.toJson)) := by
  rw [delete.request.field?_toJson.2.1]
  rfl

theorem Delete.agrees (delete : Delete) :
    delete.description.Agrees delete.conditions.filters delete.request.toJson :=
  ⟨delete.request.field?_toJson.1, delete.conditions.filtersAgree delete.filtersOfJson?_request⟩

namespace Statement

/-- Statements of rows that are there, built by steps, with the filters that the steps gave. -/
inductive Built : Statement → List Filter → Prop where
  | select (table : TableName) (steps : List Select.Step) :
      Built (.select (Select.build table steps))
        ((steps.filterMap Select.Step.condition?).filterMap Conditions.Step.filter?)
  | update (table : TableName) (steps : List Update.Step) :
      Built (.update (Update.build table steps))
        ((steps.filterMap Update.Step.condition?).filterMap Conditions.Step.filter?)
  | delete (table : TableName) (steps : List Delete.Step) :
      Built (.delete (Delete.build table steps))
        ((steps.filterMap Delete.Step.condition?).filterMap Conditions.Step.filter?)

/-- The text of a statement is read as what its skeleton says. -/
theorem ofText?_sql {statement : Statement} (hnames : statement.ProjectsNames)
    (htemplate : statement.template ≠ []) :
    Description.ofText? statement.sql = Description.ofTokens? statement.skeleton.written := by
  have hreads := (readsAs_template hnames htemplate).reads .inline
  unfold Reads at hreads
  rw [Description.ofText?, sql, render, hreads, Option.bind_some,
    Skeleton.fill_eq_written _ rfl]

/-- A statement that met no fault has a body. -/
theorem array_of_fault {statement : Statement} (hfault : statement.fault? = none) :
    statement.array = .ok statement.body := by
  rw [array, hfault]

/-- A read that is valid met no fault and has a text. -/
theorem select_of_validate {select : Select} (hvalid : select.validate = .ok ()) :
    select.fault? = none ∧ select.template ≠ [] := by
  unfold Select.validate at hvalid
  split at hvalid
  next => simp at hvalid
  next hfault => simp [Select.template, hfault]

/-- An update that is valid met no fault, assigns a column and has a text. -/
theorem update_of_validate {update : Update} (hvalid : update.validate = .ok ()) :
    update.fault? = none ∧ update.assignments.entries ≠ [] ∧ update.template ≠ [] := by
  unfold Update.validate at hvalid
  split at hvalid
  next => simp at hvalid
  next hfault =>
    split at hvalid
    next => simp at hvalid
    next hassigned =>
      have hne : update.assignments.entries ≠ [] := by
        simpa [OrderedMap.isEmpty] using hassigned
      refine ⟨hfault, hne, ?_⟩
      simp [Update.template, hfault, hassigned]

/-- A deletion that is valid met no fault and has a text. -/
theorem delete_of_validate {delete : Delete} (hvalid : delete.validate = .ok ()) :
    delete.fault? = none ∧ delete.template ≠ [] := by
  unfold Delete.validate at hvalid
  split at hvalid
  next => simp at hvalid
  next hfault => simp [Delete.template, hfault]

/-- The text and the body of a statement that is valid describe one operation, on the filters
that its steps gave. -/
theorem text_agrees_with_body {statement : Statement} {filters : List Filter}
    (hbuilt : Built statement filters) (hvalid : statement.validate = .ok ())
    (hnames : statement.ProjectsNames) :
    ∃ description body, Description.ofText? statement.sql = some description ∧
      statement.array = .ok body ∧ description.Agrees filters body := by
  cases hbuilt with
  | select table steps =>
      obtain ⟨hfault, htemplate⟩ := select_of_validate hvalid
      have htext := ofText?_sql hnames htemplate
      have hread := Select.ofTokens?_written _ (Select.columns_build_ne_nil table steps)
      rw [← Select.filters_build table steps]
      exact ⟨_, _, htext.trans hread, array_of_fault hfault, Select.agrees _⟩
  | update table steps =>
      obtain ⟨hfault, hassigned, htemplate⟩ := update_of_validate hvalid
      have htext := ofText?_sql hnames htemplate
      have hread := Update.ofTokens?_written _ hassigned
      rw [← Update.filters_build table steps]
      exact ⟨_, _, htext.trans hread, array_of_fault hfault, Update.agrees _⟩
  | delete table steps =>
      obtain ⟨hfault, htemplate⟩ := delete_of_validate hvalid
      have htext := ofText?_sql hnames htemplate
      have hread := (Delete.build table steps).ofTokens?_written
      rw [← Delete.filters_build table steps]
      exact ⟨_, _, htext.trans hread, array_of_fault hfault, Delete.agrees _⟩

/-- One column in two conditions, a value that looks like a condition, and an empty list. -/
def repeatedSteps : List Update.Step :=
  [.set "a\"b" (.text "x = 1, y"), .arithmetic "n" .decrement (.int (-2)),
    .condition (.compare "c" .equal (.single (.text "1' AND \"d\" = '2"))),
    .condition (.parsed "e" "not  in" (.list [])),
    .condition (.parsed "e" "nothing" .none),
    .condition (.compare "c" .isNotNull .none)]

theorem text_agrees_with_body_repeated :
    (Update.build ⟨"t"⟩ repeatedSteps).validate = .ok () ∧
      ∃ description body,
        Description.ofText? (Statement.update (Update.build ⟨"t"⟩ repeatedSteps)).sql =
          some description ∧
        (Statement.update (Update.build ⟨"t"⟩ repeatedSteps)).array = .ok body ∧
        description.Agrees
          ((repeatedSteps.filterMap Update.Step.condition?).filterMap Conditions.Step.filter?)
          body :=
  ⟨by decide, text_agrees_with_body (.update ⟨"t"⟩ repeatedSteps) (by decide) trivial⟩

end Statement

end TwinQuery
