import TwinQuery.OrderedMap
import TwinQuery.Scalar

/-!
# Rows to insert and columns to assign

A row gives values to columns, in the order in which they were set. An assignment gives a
column a value, or adds an amount to it or takes one away.
-/

namespace TwinQuery

abbrev Record := OrderedMap Scalar

namespace Record

/-- The fields of a record as JSON, in the order in which they were set. -/
def fields (record : OrderedMap Scalar) : List (String × Json) :=
  record.entries.map fun (column, value) => (column, value.toJson)

def toJson (record : OrderedMap Scalar) : Json :=
  .ofFields (fields record)

def text (record : OrderedMap Scalar) : String :=
  (Json.object (fields record)).text

end Record

inductive Arithmetic where
  | increment
  | decrement
  deriving DecidableEq, Repr

namespace Arithmetic

def sign : Arithmetic → String
  | increment => "+"
  | decrement => "-"

def wireName : Arithmetic → String
  | increment => "increment"
  | decrement => "decrement"

end Arithmetic

inductive Assignment where
  | value (value : Scalar)
  | arithmetic (operation : Arithmetic) (amount : Scalar)
  deriving DecidableEq, Repr

def Assignment.toJson : Assignment → Json
  | .value scalar => scalar.toJson
  | .arithmetic operation amount =>
      .ofFields [("operation", .string operation.wireName), ("value", amount.toJson)]

/-- What to do with a row that is there already. -/
inductive ConflictResolution where
  | ignore
  | replace
  | update
  | abort
  deriving DecidableEq, Repr

namespace ConflictResolution

def wireName : ConflictResolution → String
  | ignore => "Ignore"
  | replace => "Replace"
  | update => "Update"
  | abort => "Abort"

def decode : Json.Decoder ConflictResolution :=
  Json.decodeName [("Ignore", ignore), ("Replace", replace), ("Update", update), ("Abort", abort)]

end ConflictResolution

end TwinQuery
