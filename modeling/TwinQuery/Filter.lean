import TwinQuery.Operand
import TwinQuery.Operator

/-!
# Filters

A filter compares a column with an operand. Its operand always fits its operator: none for a
test of NULL, a list for a membership test, and for the others one scalar that is not null.
`Filter.make` brings an operand into that form where there is only one way to do so and
refuses it otherwise.
-/

namespace TwinQuery

/-- Whether an operand fits an operator. -/
def Operator.Accepts (operator : Operator) (operand : Operand) : Prop :=
  match operand with
  | .none => operator.takesNoValue = true
  | .list _ => operator.takesList = true
  | .single value =>
      operator.takesNoValue = false ∧ operator.takesList = false ∧ value.isNull = false

structure Filter where
  column : String
  operator : Operator
  operand : Operand
  accepted : operator.Accepts operand
  named : Text.isBlankText column = false

namespace Filter

/-- Why there is no filter of a column, an operator and an operand. -/
inductive Fault where
  /-- The column has no name. -/
  | blankColumn
  /-- There is nothing to compare with, or null. -/
  | missingValue (operator : Operator)
  /-- There is a list where one value is compared. -/
  | unexpectedList (operator : Operator)

def Fault.message : Fault → String
  | blankColumn => "column name is empty"
  | missingValue operator =>
      "operator " ++ operator.wireName ++ " needs a value; use IS NULL / IS NOT NULL for NULL"
  | unexpectedList operator => "operator " ++ operator.wireName ++ " does not accept a list"

/-- The operand in the form that an operator takes: dropped by a test of NULL, a single value
made a list by a membership test. -/
def fit (operator : Operator) (operand : Operand) :
    Except Fault { fitted : Operand // operator.Accepts fitted } :=
  if none : operator.takesNoValue = true then .ok ⟨.none, none⟩
  else
    match operand with
    | .none => .error (.missingValue operator)
    | .list values =>
        if list : operator.takesList = true then .ok ⟨.list values, list⟩
        else .error (.unexpectedList operator)
    | .single value =>
        if null : value.isNull = true then .error (.missingValue operator)
        else if list : operator.takesList = true then .ok ⟨.list [value], list⟩
        else
          .ok ⟨.single value, by simpa using none, by simpa using list, by simpa using null⟩

/-- The filter of a column, an operator and an operand. -/
def make (column : String) (operator : Operator) (operand : Operand) : Except Error Filter :=
  if blank : Text.isBlankText column = true then
    .error (.invalidFilter column Fault.blankColumn.message)
  else
    match fit operator operand with
    | .ok ⟨fitted, accepted⟩ => .ok ⟨column, operator, fitted, accepted, by simpa using blank⟩
    | .error fault => .error (.invalidFilter column fault.message)

def isNull (column : String) : Except Error Filter :=
  make column .isNull .none

def isNotNull (column : String) : Except Error Filter :=
  make column .isNotNull .none

def equal (column : String) (operand : Operand) : Except Error Filter :=
  make column .equal operand

def debug (filter : Filter) : String :=
  "Filter \x7b column: " ++ Text.escaped filter.column ++ ", op: " ++ filter.operator.debug ++
    ", value: " ++ filter.operand.debug ++ " \x7d"

end Filter

end TwinQuery
