import TwinQuery.Dictionary

/-!
# JSON values

Whole numbers and doubles are kept apart: `1` and `1.0` are different values. An object is a
dictionary, so its entries stand in the order of their names.
-/

namespace TwinQuery

/-- A JSON value. Whole numbers lie between `-2 ^ 63` and `2 ^ 64 - 1`. -/
inductive Json where
  | null
  | bool (value : Bool)
  | int (value : Int)
  | float (value : Float)
  | string (value : String)
  | array (items : List Json)
  | object (fields : List (String × Json))
  deriving Repr, Inhabited

namespace Json

def ofFields (fields : List (String × Json)) : Json :=
  .object (Dictionary.ofList fields)

def optional (name : String) (value : Option Json) : List (String × Json) :=
  (value.map fun value => (name, value)).toList

/-- A whole number as it is sent, whatever its width. -/
def ofNat (n : Nat) : Json :=
  .int n

/-- A double as it is sent: infinities and NaN have no JSON form and become null. -/
def ofFloat (x : Float) : Json :=
  if x.isFinite then .float x else .null

def fields? : Json → Option (Dictionary Json)
  | .object fields => some fields
  | _ => none

def field? (name : String) : Json → Option Json
  | .object fields => Dictionary.find? name fields
  | _ => none

def bool? : Json → Option Bool
  | .bool value => some value
  | _ => none

def string? : Json → Option String
  | .string value => some value
  | _ => none

def unsigned64? : Json → Option UInt64
  | .int (.ofNat n) => if n < UInt64.size then some n.toUInt64 else none
  | _ => none

/-- A number of either kind as a double. -/
def number? : Json → Option Float
  | .int (.ofNat n) => some n.toUInt64.toFloat
  | .int (.negSucc n) => some (-(n + 1).toUInt64.toFloat)
  | .float value => some value
  | _ => none

def items? : Json → Option (List Json)
  | .array items => some items
  | _ => none

end Json

end TwinQuery
