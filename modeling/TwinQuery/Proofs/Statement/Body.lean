import TwinQuery.Proofs.Sql.Descriptions
import TwinQuery.Request

/-!
# What a request body says

A reader of a JSON body recovers what it says in the same terms as a reader of the text:
literals, conditions, assignments, a projection, a sort order and numbers. In the map of the
filters a column has one entry, that of the last filter on it.
-/

namespace TwinQuery

open Sql

/-! ## Looking up -/

namespace Dictionary

variable {α β : Type}

/-- Of the pairs with one name the last one counts. -/
theorem find?_ofList (name : String) (pairs : List (String × α)) :
    find? name (ofList pairs) = pairs.reverse.lookup name := by
  -- an insertion into any dictionary, since the fold goes on from what it has built
  have hfold : ∀ entries : Dictionary α,
      find? name (pairs.foldl (fun held pair => insert pair.1 pair.2 held) entries) =
        (pairs.reverse.lookup name).or (find? name entries) := by
    induction pairs with
    | nil =>
        intro entries
        simp
    | cons pair rest ih =>
        intro entries
        obtain ⟨key, value⟩ := pair
        rw [List.foldl_cons, ih, find?_insert, List.reverse_cons, List.lookup_append,
          Option.or_assoc]
        congr 1
        by_cases hname : name = key
        · simp [hname]
        · simp [hname, List.lookup_cons, beq_false_of_ne hname]
  rw [ofList, hfold, find?, List.lookup_nil, Option.or_none]

theorem find?_map (name : String) (f : α → β) (entries : Dictionary α) :
    find? name (entries.map fun (key, value) => (key, f value)) = (find? name entries).map f := by
  induction entries with
  | nil => rfl
  | cons entry rest ih =>
      obtain ⟨key, value⟩ := entry
      rw [List.map_cons, find?_cons, find?_cons, ih]
      split <;> rfl

end Dictionary

namespace Json

/-- Of fields given twice the last one counts. -/
theorem field?_ofFields (name : String) (fields : List (String × Json)) :
    (ofFields fields).field? name = fields.reverse.lookup name :=
  Dictionary.find?_ofList name fields

theorem reverse_optional (name : String) (value : Option Json) :
    (optional name value).reverse = optional name value := by
  cases value <;> rfl

theorem lookup_optional (other name : String) (value : Option Json) :
    (optional name value).lookup other = if other = name then value else none := by
  cases value with
  | none => simp [optional]
  | some value =>
      by_cases hname : other = name
      · simp [optional, hname]
      · simp [optional, List.lookup_cons, hname, beq_false_of_ne hname]

end Json

def lastOn (column : String) (filters : List Filter) : Option Filter :=
  filters.reverse.find? fun filter => filter.column = column

/-- What a map made of filters has under a column comes from a filter on the column. -/
theorem lookup_filters {α : Type} (column : String) (f : Filter → α) (filters : List Filter) :
    (filters.map fun filter => (filter.column, f filter)).lookup column =
      (filters.find? fun filter => filter.column = column).map f := by
  induction filters with
  | nil => rfl
  | cons filter rest ih =>
      by_cases hcolumn : filter.column = column
      · simp [hcolumn]
      · simp [List.lookup_cons, hcolumn, beq_false_of_ne (Ne.symm hcolumn), ih]

/-- The map of the filters holds for each column the entry of the last filter on it. -/
theorem Conditions.find?_toDictionary (conditions : Conditions) (column : String) :
    Dictionary.find? column conditions.toDictionary =
      (lastOn column conditions.filters).map fun filter =>
        ⟨filter.operator, filter.operand⟩ := by
  rw [toDictionary, Dictionary.find?_ofList, ← List.map_reverse, lookup_filters]
  rfl

/-! ## Readers -/

namespace Sql

def Literal.ofJson? : Json → Option Literal
  | .null => some .null
  | .bool value => some (.bool value)
  | .int value => some (.number (decide (value < 0)) value.natAbs 0)
  | .float value =>
      if value.isFinite then
        some (.number (Decimal.isNegative value) (Decimal.shownSize value).numerator
          (Decimal.shownSize value).places)
      else none
  | .string value => some (.text value)
  | .array _ | .object _ => none

/-- A scalar is the same value in a body as in a text. -/
theorem Literal.ofJson?_toJson (value : Scalar) :
    Literal.ofJson? value.toJson = some (shown value) := by
  cases value with
  | float value =>
      simp only [Scalar.toJson, Json.ofFloat, shown]
      split
      next hfinite => simp [Literal.ofJson?, hfinite]
      next => rfl
  | _ => rfl

def Condition.ofOperand? (column : String) (operator : Operator) : Json → Option Condition
  | .null =>
      some (.test column operator.token
        (if operator.takesNoValue then .nothing else .value .null))
  | .array [] => some (.constant (decide (operator = .notIn)))
  | .array items =>
      (items.mapM Literal.ofJson?).map fun literals =>
        .test column operator.token (.values literals)
  | plain => (Literal.ofJson? plain).map fun literal => .test column operator.token (.value literal)

/-- The condition on a column that an entry of a map of filters shows. -/
def Condition.ofJson? (column : String) (entry : Json) : Option Condition := do
  let name ← (entry.field? "operator").bind Json.string?
  let operator ← Operator.named? name
  let value ← entry.field? "value"
  Condition.ofOperand? column operator value

def Assigned.ofJson? : Json → Option Assigned
  | .object fields => do
      let name ← (Dictionary.find? "operation" fields).bind Json.string?
      let operation ←
        if name = "increment" then some Arithmetic.increment
        else if name = "decrement" then some Arithmetic.decrement
        else none
      let amount ← (Dictionary.find? "value" fields).bind Literal.ofJson?
      return .arithmetic operation amount
  | plain => (Literal.ofJson? plain).map .value

/-- The projection of a body. It is `*` where the field is absent. -/
def projectionOfJson? : Option Json → Option (List Projected)
  | none => some [.all]
  | some columns =>
      columns.items?.bind fun items =>
        items.mapM fun item => item.string?.map Projected.ofEntry

def sortFieldOfJson? (field : Json) : Option SortField := do
  let column ← (field.field? "column").bind Json.string?
  let name ← (field.field? "direction").bind Json.string?
  if name = "Asc" then some ⟨column, .ascending⟩
  else if name = "Desc" then some ⟨column, .descending⟩
  else none

def sortOfJson? : Option Json → Option (List SortField)
  | none => some []
  | some sort => sort.items?.bind fun items => items.mapM sortFieldOfJson?

/-- The number of a field, nothing where the field is absent. -/
def numberOfJson? : Option Json → Option (Option Nat)
  | none => some none
  | some (.int (.ofNat n)) => some (some n)
  | some _ => none

/-- The map of the filters, empty where the field is absent. -/
def filtersOfJson? : Option Json → Option (Dictionary Json)
  | none => some []
  | some filters => filters.fields?

end Sql

/-! ## What is read back -/

/-- The name of an operator in a body names it. -/
theorem Operator.named?_wireName (operator : Operator) :
    Operator.named? operator.wireName = some operator := by
  cases operator <;> decide

/-- A scalar that is compared with is the same value in a body as in a text. -/
theorem Condition.ofOperand?_toJson (column : String) {operator : Operator}
    (hvalue : operator.takesNoValue = false) (value : Scalar) :
    Condition.ofOperand? column operator value.toJson =
      some (.test column operator.token (.value (shown value))) := by
  have hliteral := Literal.ofJson?_toJson value
  cases hjson : value.toJson with
  | null =>
      -- null stands for no operand only where the operator takes none
      rw [hjson] at hliteral
      simp [Condition.ofOperand?, hvalue, ← Option.some.inj hliteral]
  | array items =>
      rw [hjson] at hliteral
      simp [Literal.ofJson?] at hliteral
  | object fields =>
      rw [hjson] at hliteral
      simp [Literal.ofJson?] at hliteral
  | _ =>
      rw [hjson] at hliteral
      simp [Condition.ofOperand?, hliteral]

/-- The entry of a filter shows the condition that the filter writes. -/
theorem Condition.ofJson?_entry (filter : Filter) :
    Condition.ofJson? filter.column
        (FilterEntry.toJson ⟨filter.operator, filter.operand⟩) = some filter.condition := by
  have hentry : ∀ value, (FilterEntry.toJson ⟨filter.operator, filter.operand⟩).field? "value" =
      some value → Condition.ofJson? filter.column
        (FilterEntry.toJson ⟨filter.operator, filter.operand⟩) =
          Condition.ofOperand? filter.column filter.operator value := by
    intro value hvalue
    rw [Condition.ofJson?, hvalue]
    simp [FilterEntry.toJson, Json.field?_ofFields, List.lookup_cons, Json.string?,
      Operator.named?_wireName]
  have hvalue : (FilterEntry.toJson ⟨filter.operator, filter.operand⟩).field? "value" =
      some filter.operand.toJson := by
    simp [FilterEntry.toJson, Json.field?_ofFields]
  rw [hentry _ hvalue]
  have haccepted := filter.accepted
  unfold Filter.condition
  cases hoperand : filter.operand with
  | none =>
      rw [hoperand] at haccepted
      have hnone : filter.operator.takesNoValue = true := haccepted
      simp [Operand.toJson, Condition.ofOperand?, hnone]
  | single value =>
      rw [hoperand] at haccepted
      exact Condition.ofOperand?_toJson filter.column haccepted.1 value
  | list values =>
      cases values with
      | nil => rfl
      | cons value values =>
          have hvalues : ((value :: values).map Scalar.toJson).mapM Literal.ofJson? =
              some ((value :: values).map shown) :=
            mapM_map_of_eq_some fun member _ => Literal.ofJson?_toJson member
          simp only [Operand.toJson, List.map_cons] at hvalues ⊢
          simp [Condition.ofOperand?, hvalues]

theorem Arithmetic.toJson_fields (operation : Arithmetic) (amount : Scalar) :
    Dictionary.find? "operation"
        (Dictionary.ofList [("operation", Json.string operation.wireName),
          ("value", amount.toJson)]) = some (.string operation.wireName) ∧
      Dictionary.find? "value"
        (Dictionary.ofList [("operation", Json.string operation.wireName),
          ("value", amount.toJson)]) = some amount.toJson := by
  constructor <;> simp [Dictionary.find?_ofList, List.lookup_cons]

/-- An assignment is the same in a body as in a text. -/
theorem Assigned.ofJson?_toJson (assignment : Assignment) :
    Assigned.ofJson? assignment.toJson = some assignment.assigned := by
  cases assignment with
  | value value =>
      have hliteral := Literal.ofJson?_toJson value
      simp only [Assignment.toJson, Assignment.assigned]
      cases hjson : value.toJson with
      | object fields =>
          rw [hjson] at hliteral
          simp [Literal.ofJson?] at hliteral
      | _ =>
          rw [hjson] at hliteral
          simp [Assigned.ofJson?, hliteral]
  | arithmetic operation amount =>
      obtain ⟨hoperation, hamount⟩ := Arithmetic.toJson_fields operation amount
      simp only [Assignment.toJson, Json.ofFields, Assigned.ofJson?, hoperation, hamount,
        Option.bind_eq_bind, Option.bind_some, Json.string?, Literal.ofJson?_toJson]
      cases operation <;> rfl

/-- A sort field is read back from a body. -/
theorem sortFieldOfJson?_toJson (field : SortField) :
    sortFieldOfJson? field.toJson = some field := by
  have hcolumn : field.toJson.field? "column" = some (.string field.column) := by
    simp [SortField.toJson, Json.field?_ofFields, List.lookup_cons]
  have hdirection : field.toJson.field? "direction" = some (.string field.direction.wireName) := by
    simp [SortField.toJson, Json.field?_ofFields]
  rw [sortFieldOfJson?, hcolumn, hdirection]
  simp only [Option.bind_eq_bind, Option.bind_some, Json.string?]
  obtain ⟨column, direction⟩ := field
  cases direction <;> rfl

theorem sortOfJson?_array (sort : List SortField) :
    sortOfJson? (some (.array (sort.map SortField.toJson))) = some sort := by
  have hfields := mapM_map_of_eq_some
    fun (field : SortField) (_ : field ∈ sort) => sortFieldOfJson?_toJson field
  rw [List.map_id'] at hfields
  exact hfields

/-- The columns of a body are read as the entries of the projection. -/
theorem projectionOfJson?_array (columns : List String) :
    projectionOfJson? (some (.array (columns.map Json.string))) =
      some (columns.map Projected.ofEntry) :=
  mapM_map_of_eq_some fun _ _ => rfl

theorem numberOfJson?_unsigned (n? : Option UInt64) :
    numberOfJson? (n?.map unsignedJson) = some (n?.map UInt64.toNat) := by
  cases n? <;> rfl

/-- Where every name stands once, the last entry of a name is the first. -/
theorem lookup_reverse {α : Type} {entries : List (String × α)}
    (hnodup : (entries.map Prod.fst).Nodup) (name : String) :
    entries.reverse.lookup name = entries.lookup name := by
  induction entries with
  | nil => rfl
  | cons entry rest ih =>
      obtain ⟨key, value⟩ := entry
      obtain ⟨hkey, hrest⟩ := List.nodup_cons.1 hnodup
      rw [List.reverse_cons, List.lookup_append, ih hrest]
      by_cases hname : name = key
      · have hnone : rest.lookup name = none := by
          rw [List.lookup_eq_none_iff]
          intro later hlater
          rw [bne_iff_ne]
          intro heq
          have hmem : later.1 ∈ rest.map Prod.fst := List.mem_map_of_mem hlater
          rw [← heq, hname] at hmem
          exact hkey hmem
        simp [hname, hname ▸ hnone]
      · simp [List.lookup_cons, beq_false_of_ne hname]

end TwinQuery
