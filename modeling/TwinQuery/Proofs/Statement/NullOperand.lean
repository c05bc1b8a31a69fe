import TwinQuery.Proofs.Statement.Encoding

/-!
# Comparing with NULL

No filter that compares has NULL for its operand, and NULL is never added or taken away. But a
double that is not finite has no literal, and NULL is written in its place. So a statement that is
valid compares with NULL, or adds it, exactly where it was given such a double:
`Statement.null_iff_not_finite`.
-/

namespace TwinQuery

open Sql

/-! ## Texts with literals -/

namespace Template

def sql (template : Template) : String :=
  (Bindings.inline.fill template).1

/-- Literals do not depend on what is bound already. -/
theorem fst_fill_eq_sql (template : Template) {bindings : Bindings}
    (hstyle : bindings.style = .inline) : (bindings.fill template).1 = template.sql := by
  have hfill : ∀ first second : Bindings, first.style = .inline → second.style = .inline →
      (first.fill template).1 = (second.fill template).1 := by
    induction template with
    | nil => exact fun _ _ _ _ => rfl
    | cons piece rest ih =>
        intro first second hfirst hsecond
        cases piece with
        | text fixed => exact congrArg (fixed ++ ·) (ih first second hfirst hsecond)
        | slot value =>
            have hrest := ih (first.bind value).2 (second.bind value).2 hfirst hsecond
            simp only [Bindings.fill, hrest]
            simp only [Bindings.bind, hfirst, hsecond]
  exact hfill bindings Bindings.inline hstyle rfl

theorem sql_append (first second : Template) : sql (first ++ second) = first.sql ++ second.sql := by
  have hstyle : (Bindings.inline.fill first).2.style = .inline := Bindings.style_fill first _
  rw [sql, Bindings.fill_append, fst_fill_eq_sql second hstyle]
  rfl

theorem sql_text_cons (fixed : String) (rest : Template) :
    sql (.text fixed :: rest) = fixed ++ rest.sql := rfl

theorem sql_joined (separator : String) (parts : List Template) :
    (joined separator parts).sql = separator.intercalate (parts.map sql) := by
  have htexts : ∀ bindings : Bindings, bindings.style = .inline →
      bindings.texts parts = parts.map sql := by
    induction parts with
    | nil => exact fun _ _ => rfl
    | cons part rest ih =>
        intro bindings hstyle
        rw [Bindings.texts, fst_fill_eq_sql part hstyle, List.map_cons,
          ih _ ((Bindings.style_fill part bindings).trans hstyle)]
  rw [sql, Bindings.fst_fill_joined, htexts Bindings.inline rfl]

/-- A template with literals is read as its skeleton, the values written out. -/
theorem tokens_sql {template : Template} {skeleton : Skeleton}
    (hreads : ReadsAs template skeleton) : tokens template.sql.toList = some skeleton.written := by
  have hstyle : Bindings.inline.style = .inline := rfl
  rw [← skeleton.fill_eq_written hstyle]
  exact hreads.reads Bindings.inline

end Template

/-! ## Conditions and amounts -/

/-- A scalar is written as NULL exactly where it is null or a double that is not finite. -/
theorem Sql.shown_eq_null_iff (value : Scalar) :
    shown value = .null ↔ value.isNull = true ∨ ¬value.IsFinite := by
  cases value with
  | float value =>
      cases hfinite : value.isFinite <;> simp [shown, Scalar.isNull, Scalar.IsFinite, hfinite]
  | _ => simp [shown, Scalar.isNull, Scalar.IsFinite]

/-- The condition compares a column with NULL. -/
def Sql.Condition.ComparesNull (condition : Condition) : Prop :=
  ∃ column operator, condition = .test column operator (.value .null)

namespace Filter

/-- The filter compares its column with a double that is not finite. -/
def ComparesNotFinite (filter : Filter) : Prop :=
  ∃ value, filter.operand = .single value ∧ ¬value.IsFinite

variable (filter : Filter)

/-- A condition compares with NULL exactly where its filter compares with a double that is not
finite: no filter has a null in its operand. -/
theorem comparesNull_condition_iff :
    filter.condition.ComparesNull ↔ filter.ComparesNotFinite := by
  have haccepted := filter.accepted
  unfold condition Condition.ComparesNull ComparesNotFinite
  cases hoperand : filter.operand with
  | none => simp
  | single value =>
      rw [hoperand] at haccepted
      have hnull : value.isNull = false := haccepted.2.2
      simp [Sql.shown_eq_null_iff, hnull]
  | list values => cases values <;> simp

/-- A filter is read back from its text. -/
theorem ofTokens?_sql :
    (tokens filter.template.sql.toList).bind Condition.ofTokens? = some filter.condition := by
  rw [Template.tokens_sql filter.readsAs_template, Option.bind_some]
  exact filter.ofTokens?_written

/-- In a body an operand is null where there is none, or where it is a double that is not finite. -/
theorem operand_toJson_eq_null_iff :
    filter.operand.toJson = .null ↔ filter.operand = .none ∨ filter.ComparesNotFinite := by
  have haccepted := filter.accepted
  unfold ComparesNotFinite
  cases hoperand : filter.operand with
  | none => simp [Operand.toJson]
  | single value =>
      rw [hoperand] at haccepted
      have hnull : value.isNull = false := haccepted.2.2
      simp [Operand.toJson, Scalar.toJson_eq_null_iff, hnull]
  | list values => simp [Operand.toJson]

end Filter

theorem Scalar.isNull_of_isNumeric {value : Scalar} (hnumeric : value.isNumeric = true) :
    value.isNull = false := by
  cases value with
  | null => exact absurd hnumeric (by decide)
  | _ => rfl

namespace Update

/-- Whatever steps build an update, it adds and takes away numbers only. -/
theorem isNumeric_of_mem (table : TableName) (steps : List Step) {column : String}
    {operation : Arithmetic} {amount : Scalar}
    (hentry : (column, .arithmetic operation amount) ∈ (build table steps).assignments.entries) :
    amount.isNumeric = true := by
  rw [assignments_build] at hentry
  rcases OrderedMap.mem_setAll hentry with haccepted | hempty
  · have haccepts := (List.mem_filter.1 haccepted).2
    exact (Bool.and_eq_true_iff.1 haccepts).2
  · exact absurd hempty List.not_mem_nil

theorem shown_amount_eq_null_iff {amount : Scalar} (hnumeric : amount.isNumeric = true) :
    shown amount = .null ↔ ¬amount.IsFinite := by
  simp [shown_eq_null_iff, Scalar.isNull_of_isNumeric hnumeric]

/-- An assignment is read back from its text. -/
theorem assignmentOf?_sql (column : String) (assignment : Assignment) :
    (tokens (assignmentTemplate column assignment).sql.toList).bind assignmentOf? =
      some (column, assignment.assigned) := by
  rw [Template.tokens_sql (readsAs_assignment column assignment), Option.bind_some]
  exact assignmentOf?_written column assignment

end Update

/-! ## Statements -/

/-- The text of filters that all have to hold. -/
def conditionsSql (filters : List Filter) : String :=
  if filters.isEmpty then ""
  else " WHERE " ++ " AND ".intercalate (filters.map fun filter => filter.template.sql)

theorem Conditions.sql_whereTail (conditions : Conditions) :
    conditions.whereTail.sql = conditionsSql conditions.filters := by
  unfold whereTail whereClause conditionsSql
  split
  next => rfl
  next =>
    rw [Template.sql_text_cons, Template.sql_text_cons, clause, Template.sql_joined, List.map_map,
      ← String.append_assoc]
    rfl

namespace Statement

def assignments : Statement → List (String × Assignment)
  | update statement => statement.assignments.entries
  | select _ | insert _ | delete _ => []

/-- The text in front of the conditions. -/
def beforeConditions : Statement → String
  | select statement =>
      "SELECT " ++ ", ".intercalate (statement.columns.map Identifier.projection) ++ " FROM " ++
        Identifier.quote statement.table.text
  | insert _ => ""
  | update statement =>
      "UPDATE " ++ Identifier.quote statement.table.text ++ " SET " ++
        ", ".intercalate (statement.assignments.entries.map fun entry =>
          (Update.assignmentTemplate entry.1 entry.2).sql)
  | delete statement => "DELETE FROM " ++ Identifier.quote statement.table.text

/-- The text behind the conditions: the sort order and the page of a read. -/
def behindConditions : Statement → String
  | select statement =>
      Template.sql (statement.sortTail ++ Select.numberTail " LIMIT " statement.limit? ++
        Select.numberTail " OFFSET " statement.offset?)
  | insert _ | update _ | delete _ => ""

/-- In the text and in the body of a statement NULL is compared with, added or taken away exactly
where a double is that is not finite. -/
structure NullsAreNotFinite (statement : Statement) (filters : List Filter) : Prop where
  /-- The conditions in the text are those of the filters, -/
  sql_eq : statement.sql =
    statement.beforeConditions ++ conditionsSql filters ++ statement.behindConditions
  /-- each of which is read as a condition. -/
  condition : ∀ filter ∈ filters, ∃ condition,
    (tokens filter.template.sql.toList).bind Condition.ofTokens? = some condition ∧
      (condition.ComparesNull ↔ filter.ComparesNotFinite)
  /-- In the body null stands for the operand of a test of NULL, too. -/
  value : ∃ body entries, statement.array = .ok body ∧
    filtersOfJson? (body.field? "filters") = some entries ∧
    ∀ column filter, lastOn column filters = some filter → ∃ entry,
      Dictionary.find? column entries = some entry ∧
        (entry.field? "value" = some .null ↔
          filter.operand = .none ∨ filter.ComparesNotFinite)
  /-- An amount stands in the text in front of the conditions, -/
  amount : ∀ column operation amount,
    (column, Assignment.arithmetic operation amount) ∈ statement.assignments → ∃ literal,
      (tokens (Update.assignmentTemplate column (.arithmetic operation amount)).sql.toList).bind
          assignmentOf? = some (column, .arithmetic operation literal) ∧
        (literal = .null ↔ ¬amount.IsFinite)
  /-- and in the body in the map of the assignments. -/
  amount_value : ∀ column operation amount,
    (column, Assignment.arithmetic operation amount) ∈ statement.assignments →
      ∃ body entries entry, statement.array = .ok body ∧
        (body.field? "updates").bind Json.fields? = some entries ∧
        Dictionary.find? column entries = some entry ∧
        (entry.field? "value" = some .null ↔ ¬amount.IsFinite)

end Statement

/-! ## Texts around the conditions -/

/-- The conditions of a read stand in its text between two parts that do not depend on them. -/
theorem Select.sql_eq {select : Select} (hfault : select.fault? = none) :
    (Statement.select select).sql =
      (Statement.select select).beforeConditions ++ conditionsSql select.conditions.filters ++
        (Statement.select select).behindConditions := by
  have htemplate : (Statement.select select).sql = select.template.sql := rfl
  rw [htemplate, template, hfault, Statement.beforeConditions, Statement.behindConditions,
    ← Conditions.sql_whereTail]
  simp only [Option.isSome_none, Bool.false_eq_true, if_false, Template.sql_text_cons,
    Template.sql_append, String.append_assoc]

theorem Update.sql_eq {update : Update} (hvalid : update.validate = .ok ()) :
    (Statement.update update).sql =
      (Statement.update update).beforeConditions ++ conditionsSql update.conditions.filters ++
        (Statement.update update).behindConditions := by
  obtain ⟨hfault, hassigned, -⟩ := Statement.update_of_validate hvalid
  have hne : update.assignments.isEmpty = false := by
    simpa [OrderedMap.isEmpty] using hassigned
  have htemplate : (Statement.update update).sql = update.template.sql := rfl
  rw [htemplate, template, hfault, hne, Statement.beforeConditions, Statement.behindConditions,
    ← Conditions.sql_whereTail]
  simp only [Option.isSome_none, Bool.or_false, Bool.false_eq_true, if_false,
    Template.sql_text_cons, Template.sql_append, Template.sql_joined, List.map_map,
    String.append_assoc, String.append_empty]
  rfl

theorem Delete.sql_eq {delete : Delete} (hfault : delete.fault? = none) :
    (Statement.delete delete).sql =
      (Statement.delete delete).beforeConditions ++ conditionsSql delete.conditions.filters ++
        (Statement.delete delete).behindConditions := by
  have htemplate : (Statement.delete delete).sql = delete.template.sql := rfl
  rw [htemplate, template, hfault, Statement.beforeConditions, Statement.behindConditions,
    ← Conditions.sql_whereTail]
  simp only [Option.isSome_none, Bool.false_eq_true, if_false, Template.sql_text_cons,
    String.append_empty]

/-! ## Null in bodies -/

/-- The value in the entry of the last filter on a column. -/
theorem Conditions.value_eq_null_iff (conditions : Conditions) {column : String} {filter : Filter}
    (hlast : lastOn column conditions.filters = some filter) :
    ∃ entry, Dictionary.find? column (conditions.toDictionary.map fun (column, entry) =>
        (column, entry.toJson)) = some entry ∧
      (entry.field? "value" = some .null ↔ filter.operand = .none ∨ filter.ComparesNotFinite) := by
  refine ⟨filter.entry.toJson, ?_, ?_⟩
  · rw [conditions.find?_entries, hlast, Option.map_some]
  · rw [filter.entry.field?_toJson.2, Option.some_inj]
    exact filter.operand_toJson_eq_null_iff

/-- The amount in the entry of a column that is counted up or down. -/
theorem Update.value_eq_null_iff (update : Update) {column : String} {operation : Arithmetic}
    {amount : Scalar} (hnumeric : amount.isNumeric = true)
    (hentry : (column, .arithmetic operation amount) ∈ update.assignments.entries) :
    ∃ entry, Dictionary.find? column (update.request.updates.map fun (column, assignment) =>
        (column, assignment.toJson)) = some entry ∧
      (entry.field? "value" = some .null ↔ ¬amount.IsFinite) := by
  have hlookup : update.assignments.entries.lookup column =
      some (.arithmetic operation amount) := OrderedMap.get?_of_mem hentry
  refine ⟨(Assignment.arithmetic operation amount).toJson, ?_, ?_⟩
  · rw [update.find?_entries, hlookup, Option.map_some]
  · have hvalue : (Assignment.arithmetic operation amount).toJson.field? "value" =
        some amount.toJson := (Arithmetic.toJson_fields operation amount).2
    rw [hvalue, Option.some_inj, Scalar.toJson_eq_null_iff, Scalar.isNull_of_isNumeric hnumeric]
    simp

namespace Statement

/-- A statement without assignments has NULL in its conditions alone. -/
theorem nullsAreNotFinite_of_conditions {statement : Statement} {conditions : Conditions}
    {body : Json} (hassignments : statement.assignments = [])
    (hsql : statement.sql = statement.beforeConditions ++ conditionsSql conditions.filters ++
      statement.behindConditions)
    (harray : statement.array = .ok body)
    (hentries : filtersOfJson? (body.field? "filters") =
      some (conditions.toDictionary.map fun (column, entry) => (column, entry.toJson))) :
    statement.NullsAreNotFinite conditions.filters where
  sql_eq := hsql
  condition := fun filter _ => ⟨_, filter.ofTokens?_sql, filter.comparesNull_condition_iff⟩
  value := ⟨body, _, harray, hentries, fun _ _ => conditions.value_eq_null_iff⟩
  amount := fun _ _ _ hentry => absurd hentry (hassignments ▸ List.not_mem_nil)
  amount_value := fun _ _ _ hentry => absurd hentry (hassignments ▸ List.not_mem_nil)

/-- However a statement is built, when it is valid it compares with NULL, adds it or takes it away
exactly where it was given a double that is not finite. -/
theorem null_iff_not_finite {statement : Statement} {filters : List Filter}
    (hbuilt : Built statement filters) (hvalid : statement.validate = .ok ()) :
    statement.NullsAreNotFinite filters := by
  cases hbuilt with
  | select table steps =>
      obtain ⟨hfault, -⟩ := select_of_validate hvalid
      rw [← Select.filters_build table steps]
      exact nullsAreNotFinite_of_conditions rfl (Select.sql_eq hfault) (array_of_fault hfault)
        (Select.filtersOfJson?_request _)
  | delete table steps =>
      obtain ⟨hfault, -⟩ := delete_of_validate hvalid
      rw [← Delete.filters_build table steps]
      exact nullsAreNotFinite_of_conditions rfl (Delete.sql_eq hfault) (array_of_fault hfault)
        (Delete.filtersOfJson?_request _)
  | update table steps =>
      obtain ⟨hfault, -, -⟩ := update_of_validate hvalid
      have harray : (Statement.update (Update.build table steps)).array = .ok _ :=
        array_of_fault hfault
      rw [← Update.filters_build table steps]
      constructor
      case sql_eq => exact Update.sql_eq hvalid
      case condition =>
        exact fun filter _ => ⟨_, filter.ofTokens?_sql, filter.comparesNull_condition_iff⟩
      case value =>
        exact ⟨_, _, harray, Update.filtersOfJson?_request _,
          fun _ _ => Conditions.value_eq_null_iff _⟩
      case amount =>
        intro column operation amount hentry
        have hnumeric := Update.isNumeric_of_mem table steps hentry
        exact ⟨_, Update.assignmentOf?_sql column _, Update.shown_amount_eq_null_iff hnumeric⟩
      case amount_value =>
        intro column operation amount hentry
        have hnumeric := Update.isNumeric_of_mem table steps hentry
        obtain ⟨entry, hfound, hnull⟩ := Update.value_eq_null_iff _ hnumeric hentry
        exact ⟨_, _, entry, harray, Update.fields?_updates _, hfound, hnull⟩

/-- An infinity that is taken away, a comparison with NaN, and a test of NULL. -/
def notFiniteSteps : List Update.Step :=
  [.arithmetic "n" .decrement (.float (1.0 / 0.0)),
    .condition (.compare "x" .notEqual (.single (.float (0.0 / 0.0)))),
    .condition (.compare "y" .isNull .none)]

theorem null_iff_not_finite_steps :
    (Update.build ⟨"t"⟩ notFiniteSteps).validate = .ok () ∧
      (Statement.update (Update.build ⟨"t"⟩ notFiniteSteps)).NullsAreNotFinite
        ((notFiniteSteps.filterMap Update.Step.condition?).filterMap Conditions.Step.filter?) :=
  ⟨by decide, null_iff_not_finite (.update ⟨"t"⟩ notFiniteSteps) (by decide)⟩

/-- A comparison with NULL that is not refused, and an addition of NULL. -/
theorem compares_null_of_nan :
    let comparison := Delete.build ⟨"t"⟩
      [.condition (.compare "x" .equal (.single (.float (0.0 / 0.0))))]
    let addition := Update.build ⟨"t"⟩ [.arithmetic "n" .increment (.float (0.0 / 0.0))]
    (comparison.validate = .ok () ∧
      (Statement.delete comparison).sql = "DELETE FROM \"t\" WHERE \"x\" = NULL" ∧
      (Statement.delete comparison).array = .ok (.object [
        ("filters", .object [("x", .object [("operator", .string "Equal"), ("value", .null)])]),
        ("table_name", .string "t")])) ∧
      addition.validate = .ok () ∧
      (Statement.update addition).sql = "UPDATE \"t\" SET \"n\" = \"n\" + NULL" := by
  refine ⟨⟨by decide, by decide, ?_⟩, by decide, by decide⟩
  rfl

end Statement

end TwinQuery
