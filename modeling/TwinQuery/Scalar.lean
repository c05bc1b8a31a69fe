import TwinQuery.Decimal.Layout
import TwinQuery.Json.Decode
import TwinQuery.Json.Printer
import TwinQuery.Text.Quoted

/-!
# Scalars

A scalar is one value of a column. It is written as an SQL literal in a statement and as a
JSON value in a request body. Infinities and NaN have no literal and become the null of either
form.
-/

namespace TwinQuery

/-- One value of a column. -/
inductive Scalar where
  | null
  | bool (value : Bool)
  | int (value : Int64)
  | float (value : Float)
  | text (value : String)
  deriving DecidableEq, Repr, Inhabited

namespace Scalar

def literal : Scalar → String
  | null => "NULL"
  | bool true => "TRUE"
  | bool false => "FALSE"
  | int value => Decimal.ofInt value.toInt
  | float value => if value.isFinite then Decimal.Layout.plain.text value else "NULL"
  | text value => Text.quoted '\'' value

def toJson : Scalar → Json
  | null => .null
  | bool value => .bool value
  | int value => .int value.toInt
  | float value => Json.ofFloat value
  | text value => .string value

def debug : Scalar → String
  | null => "Null"
  | bool true => "Bool(true)"
  | bool false => "Bool(false)"
  | int value => "Int(" ++ Decimal.ofInt value.toInt ++ ")"
  | float value => "Float(" ++ Decimal.Layout.diagnostic.text value ++ ")"
  | text value => "Text(" ++ Text.escaped value ++ ")"

def isNull : Scalar → Bool
  | null => true
  | _ => false

def isNumeric : Scalar → Bool
  | int _ | float _ => true
  | _ => false

/-- A whole number as a scalar, where it fits 64 bits with a sign; a larger one as a double. -/
def ofInt (n : Int) : Scalar :=
  if Int64.minValue.toInt ≤ n ∧ n ≤ Int64.maxValue.toInt then .int n.toInt64
  else (Json.int n).number?.elim .null .float

/-- The scalar of a JSON value. An array or object has none and is carried as its text. -/
def ofJson : Json → Scalar
  | .null => null
  | .bool value => bool value
  | .int value => ofInt value
  | .float value => float value
  | .string value => text value
  | composite => text composite.text

def decode : Json.Decoder Scalar
  | .array _ | .object _ => .error (.noVariant "Scalar")
  | plain => .ok (ofJson plain)

end Scalar

end TwinQuery
