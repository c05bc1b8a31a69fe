import TwinQuery.Scalar

/-!
# Operands

The operand of a filter is nothing, one scalar, or a list of scalars. In a request body it is
null, the scalar, or an array.
-/

namespace TwinQuery

/-- What a filter compares its column with. -/
inductive Operand where
  | none
  | single (value : Scalar)
  | list (values : List Scalar)
  deriving DecidableEq, Repr

namespace Operand

def isNone : Operand → Bool
  | none => true
  | _ => false

def isList : Operand → Bool
  | list _ => true
  | _ => false

def toJson : Operand → Json
  | none => .null
  | single value => value.toJson
  | list values => .array (values.map Scalar.toJson)

def decode : Json.Decoder Operand
  | .null => .ok none
  | .array items =>
      match items.mapM Scalar.decode with
      | .ok values => .ok (list values)
      | .error _ => .error (.noVariant "FilterValue")
  | .object _ => .error (.noVariant "FilterValue")
  | plain => .ok (single (Scalar.ofJson plain))

def debug : Operand → String
  | none => "None"
  | single value => "Single(" ++ value.debug ++ ")"
  | list values => "List([" ++ ", ".intercalate (values.map Scalar.debug) ++ "])"

end Operand

end TwinQuery
