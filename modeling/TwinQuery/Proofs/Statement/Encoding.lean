import TwinQuery.Proofs.Statement.Assignments

/-!
# The parts of a body are read back

The readers of scalars, operands, operators and sort fields give back what was encoded. Scalars and
operands have no tag in JSON, so this rests on two facts: all scalars but the doubles that are not
finite have a form of their own, and no filter compares with the null that would be read as
nothing: `Operand.decode_toJson`.
-/

namespace TwinQuery

/-! ## Scalars -/

namespace Scalar

/-- Neither an infinity nor NaN. -/
def IsFinite : Scalar → Prop
  | float value => value.isFinite = true
  | _ => True

instance : DecidablePred IsFinite
  | float value => inferInstanceAs (Decidable (value.isFinite = true))
  | null | bool _ | int _ | text _ => inferInstanceAs (Decidable True)

/-- A scalar is sent as null exactly where it is null or a double that is not finite. -/
theorem toJson_eq_null_iff (value : Scalar) :
    value.toJson = .null ↔ value.isNull = true ∨ ¬value.IsFinite := by
  cases value with
  | float value =>
      cases hfinite : value.isFinite <;> simp [toJson, Json.ofFloat, isNull, IsFinite, hfinite]
  | _ => simp [toJson, isNull, IsFinite]

theorem ofInt_toInt (value : Int64) : ofInt value.toInt = int value := by
  have hleast : Int64.minValue.toInt ≤ value.toInt := by
    rw [Int64.toInt_minValue]
    exact value.le_toInt
  have hmost : value.toInt ≤ Int64.maxValue.toInt := value.toInt_le
  rw [ofInt, if_pos ⟨hleast, hmost⟩]
  exact congrArg int (Int64.ofInt_toInt value)

/-- Every other scalar is read back from what is sent. -/
theorem ofJson_toJson {value : Scalar} (hfinite : value.IsFinite) :
    ofJson value.toJson = value := by
  cases value with
  | int value => exact ofInt_toInt value
  | float value =>
      have hvalue : value.isFinite = true := hfinite
      rw [toJson, Json.ofFloat, if_pos hvalue]
      rfl
  | _ => rfl

/-- A scalar is neither a list nor a record. -/
theorem toJson_plain (value : Scalar) :
    (∀ items, value.toJson ≠ .array items) ∧ ∀ fields, value.toJson ≠ .object fields := by
  cases value with
  | float value => cases hfinite : value.isFinite <;> simp [toJson, Json.ofFloat, hfinite]
  | _ => simp [toJson]

theorem decode_toJson {value : Scalar} (hfinite : value.IsFinite) :
    decode value.toJson = .ok value := by
  obtain ⟨harray, hobject⟩ := value.toJson_plain
  rw [decode, ofJson_toJson hfinite]
  · exact harray
  · exact hobject

/-- So different scalars are sent differently, whole numbers and doubles of the same value
included. -/
theorem eq_of_toJson_eq {first second : Scalar} (hfirst : first.IsFinite)
    (hsecond : second.IsFinite) (heq : first.toJson = second.toJson) : first = second := by
  rw [← ofJson_toJson hfirst, heq, ofJson_toJson hsecond]

end Scalar

/-! ## Operands and filters -/

namespace Operand

def scalars : Operand → List Scalar
  | none => []
  | single value => [value]
  | list values => values

theorem mapM_decode {values : List Scalar} (hfinite : ∀ value ∈ values, value.IsFinite) :
    (values.map Scalar.toJson).mapM Scalar.decode = .ok values := by
  induction values with
  | nil => rfl
  | cons value rest ih =>
      have hrest := ih fun later hlater => hfinite later (List.mem_cons_of_mem value hlater)
      rw [List.map_cons, List.mapM_cons, hrest,
        Scalar.decode_toJson (hfinite value List.mem_cons_self)]
      rfl

/-- An operand that fits an operator is read back. -/
theorem decode_toJson {operator : Operator} {operand : Operand}
    (haccepted : operator.Accepts operand) (hfinite : ∀ value ∈ operand.scalars, value.IsFinite) :
    decode operand.toJson = .ok operand := by
  cases operand with
  | none => rfl
  | single value =>
      have hvalue : value.IsFinite := hfinite value List.mem_cons_self
      obtain ⟨harray, hobject⟩ := value.toJson_plain
      -- the null of nothing is not the null of a scalar
      have hnull : value.toJson ≠ .null := by
        rw [Ne, Scalar.toJson_eq_null_iff, not_or, not_not]
        exact ⟨by simp [haccepted.2.2], hvalue⟩
      rw [toJson, decode, Scalar.ofJson_toJson hvalue]
      · exact hnull
      · exact harray
      · exact hobject
  | list values =>
      have hvalues : ∀ value ∈ values, value.IsFinite := hfinite
      rw [toJson, decode, mapM_decode hvalues]

end Operand

theorem Operator.decode_wireName (operator : Operator) :
    decode (.string operator.wireName) = .ok operator := by
  cases operator <;> rfl

def Filter.entry (filter : Filter) : FilterEntry :=
  ⟨filter.operator, filter.operand⟩

theorem FilterEntry.field?_toJson (entry : FilterEntry) :
    entry.toJson.field? "operator" = some (.string entry.operator.wireName) ∧
      entry.toJson.field? "value" = some entry.operand.toJson := by
  constructor <;> simp [toJson, Json.field?_ofFields, List.lookup_cons]

/-- The operator and the operand of a filter are read back from its entry. -/
theorem Filter.decode_entry (filter : Filter)
    (hfinite : ∀ value ∈ filter.operand.scalars, value.IsFinite) :
    (filter.entry.toJson.field? "operator").map Operator.decode = some (.ok filter.operator) ∧
      (filter.entry.toJson.field? "value").map Operand.decode = some (.ok filter.operand) := by
  obtain ⟨hoperator, hoperand⟩ := filter.entry.field?_toJson
  rw [hoperator, hoperand, Option.map_some, Option.map_some]
  exact ⟨congrArg some (Operator.decode_wireName filter.operator),
    congrArg some (Operand.decode_toJson filter.accepted hfinite)⟩

/-- What is sent for the entry of a filter determines it. -/
theorem Filter.entry_eq_of_toJson_eq {first second : Filter}
    (hfirst : ∀ value ∈ first.operand.scalars, value.IsFinite)
    (hsecond : ∀ value ∈ second.operand.scalars, value.IsFinite)
    (heq : first.entry.toJson = second.entry.toJson) : first.entry = second.entry := by
  obtain ⟨hoperator, hoperand⟩ := first.decode_entry hfirst
  obtain ⟨hoperator', hoperand'⟩ := second.decode_entry hsecond
  rw [heq, hoperator'] at hoperator
  rw [heq, hoperand'] at hoperand
  have hsame : second.operator = first.operator ∧ second.operand = first.operand :=
    ⟨Except.ok.inj (Option.some.inj hoperator), Except.ok.inj (Option.some.inj hoperand)⟩
  rw [entry, entry, hsame.1, hsame.2]

/-- A column has in a body the entry of the last filter on it. -/
theorem Conditions.find?_entries (conditions : Conditions) (column : String) :
    Dictionary.find? column (conditions.toDictionary.map fun (column, entry) =>
        (column, entry.toJson)) =
      (lastOn column conditions.filters).map fun filter => filter.entry.toJson := by
  rw [Dictionary.find?_map, find?_toDictionary, Option.map_map]
  rfl

/-! ## Assignments, sort fields and choices -/

theorem Arithmetic.wireName_injective : Function.Injective wireName := by
  intro first second heq
  cases first <;> cases second <;> first | rfl | exact absurd heq (by decide)

/-- What is sent for an assignment determines it. -/
theorem Assignment.eq_of_toJson_eq {first second : Assignment} (hfirst : first.scalar.IsFinite)
    (hsecond : second.scalar.IsFinite) (heq : first.toJson = second.toJson) : first = second := by
  cases first with
  | value given =>
      cases second with
      | value other => exact congrArg value (Scalar.eq_of_toJson_eq hfirst hsecond heq)
      | arithmetic operation amount => exact absurd heq (given.toJson_plain.2 _)
  | arithmetic operation amount =>
      cases second with
      | value other => exact absurd heq.symm (other.toJson_plain.2 _)
      | arithmetic operation' amount' =>
          have hfields := Json.object.inj heq
          obtain ⟨hoperation, hamount⟩ := Arithmetic.toJson_fields operation amount
          obtain ⟨hoperation', hamount'⟩ := Arithmetic.toJson_fields operation' amount'
          rw [hfields, hoperation'] at hoperation
          rw [hfields, hamount'] at hamount
          have hname := Json.string.inj (Option.some.inj hoperation)
          have hvalue : amount' = amount :=
            Scalar.eq_of_toJson_eq hsecond hfirst (Option.some.inj hamount)
          rw [Arithmetic.wireName_injective hname, hvalue]

/-- The body of an update has for each column what is sent for its assignment. -/
theorem Update.find?_entries (update : Update) (column : String) :
    Dictionary.find? column (update.request.updates.map fun (column, assignment) =>
        (column, assignment.toJson)) =
      (update.assignments.entries.lookup column).map Assignment.toJson := by
  rw [Dictionary.find?_map, request, Dictionary.find?_ofList,
    lookup_reverse update.assignments.distinct]

/-- A sort field is read back. -/
theorem SortField.decode_toJson (field : SortField) : decode field.toJson = .ok field := by
  have hfields : field.toJson = .object
      [("column", .string field.column), ("direction", .string field.direction.wireName)] := by
    cbv
  rw [hfields]
  obtain ⟨column, direction⟩ := field
  cases direction <;> rfl

theorem SortField.toJson_injective : Function.Injective toJson := by
  intro first second heq
  have hread := decode_toJson first
  rw [heq, decode_toJson second] at hread
  exact (Except.ok.inj hread).symm

theorem ConflictResolution.wireName_injective : Function.Injective wireName := by
  intro first second heq
  cases first <;> cases second <;> first | rfl | exact absurd heq (by decide)

theorem unsignedJson_injective : Function.Injective unsignedJson := by
  intro first second heq
  exact UInt64.toNat_inj.1 (Int.ofNat_inj.1 (Json.int.inj heq))

end TwinQuery
