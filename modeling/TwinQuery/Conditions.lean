import TwinQuery.Filter
import TwinQuery.Identifier
import TwinQuery.Template

/-!
# Conditions

Conditions are filters that all have to hold. They are written in two forms: as a clause that
joins every filter with `AND`, and as a dictionary from columns to filters, in which a later
filter of a column replaces an earlier one. A filter that could not be made is left out and
the first such fault is kept, so that a statement which lost a filter is never sent.
-/

namespace TwinQuery

/-- An operator with its operand, the entry of a column in a dictionary of filters. -/
structure FilterEntry where
  operator : Operator
  operand : Operand

def FilterEntry.toJson (entry : FilterEntry) : Json :=
  .ofFields [("operator", .string entry.operator.wireName), ("value", entry.operand.toJson)]

/-- Filters in the order in which they were added, and the first fault met while adding. -/
structure Conditions where
  filters : List Filter := []
  fault? : Option String := none

namespace Conditions

def push (conditions : Conditions) (filter : Filter) : Conditions :=
  { conditions with filters := conditions.filters ++ [filter] }

/-- Add the filter of a column, an operator and an operand, or keep the fault if there is
none. -/
def add (conditions : Conditions) (column : String) (operator : Operator) (operand : Operand) :
    Conditions :=
  match Filter.make column operator operand with
  | .ok filter => conditions.push filter
  | .error fault => { conditions with fault? := conditions.fault?.or (some fault.message) }

/-- Add a filter whose operator is given as a text. -/
def addParsed (conditions : Conditions) (column operator : String) (operand : Operand) :
    Except Error Conditions :=
  (Operator.parse operator).map fun operator => conditions.add column operator operand

inductive Step where
  /-- A column, an operator and an operand. -/
  | compare (column : String) (operator : Operator) (operand : Operand)
  /-- The same with the operator as a text. -/
  | parsed (column operator : String) (operand : Operand)
  /-- A filter made before. -/
  | filter (filter : Filter)

/-- Take one step. Only an operator text outside the catalogue is refused; the conditions are
then what they were. -/
def apply (conditions : Conditions) : Step → Except Error Conditions
  | .compare column operator operand => .ok (conditions.add column operator operand)
  | .parsed column operator operand => conditions.addParsed column operator operand
  | .filter filter => .ok (conditions.push filter)

def toDictionary (conditions : Conditions) : Dictionary FilterEntry :=
  Dictionary.ofList (conditions.filters.map fun filter =>
    (filter.column, ⟨filter.operator, filter.operand⟩))

end Conditions

def filtersJson (filters : Dictionary FilterEntry) : Json :=
  .object (filters.map fun (column, entry) => (column, entry.toJson))

/-- The condition that a filter writes. Membership in no value never holds, and absence from no
value always does. -/
def Filter.template (filter : Filter) : Template :=
  let subject := Identifier.column filter.column ++ " " ++ filter.operator.token
  match filter.operand with
  | .none => [.text subject]
  | .single value => [.text (subject ++ " "), .slot value]
  | .list [] => [.text (if filter.operator = .notIn then "1=1" else "1=0")]
  | .list values =>
      .text (subject ++ " (") :: Template.joined ", " (values.map fun value => [.slot value]) ++
        [.text ")"]

namespace Conditions

def clause (conditions : Conditions) : Template :=
  Template.joined " AND " (conditions.filters.map Filter.template)

/-- The clause after `WHERE`, or nothing when there is no filter. -/
def whereClause (conditions : Conditions) : Template :=
  if conditions.filters.isEmpty then [] else .text "WHERE " :: conditions.clause

def whereTail (conditions : Conditions) : Template :=
  if conditions.filters.isEmpty then [] else .text " " :: conditions.whereClause

def debug (conditions : Conditions) : String :=
  "WhereBuilder \x7b filters: [" ++ ", ".intercalate (conditions.filters.map Filter.debug) ++
    "], build_error: " ++
    (match conditions.fault? with
      | none => "None"
      | some fault => "Some(" ++ Text.escaped fault ++ ")") ++ " \x7d"

end Conditions

end TwinQuery
