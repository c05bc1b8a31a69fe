import TwinQuery.Error
import TwinQuery.Json.Decode
import TwinQuery.Text.Blank
import TwinQuery.Text.Case

/-!
# Operators

The service knows seventeen operators. Each has a name in request bodies and a token in SQL
text; four of them share the token `LIKE`. A text is parsed as the exact name of an operator
or, whatever its case and the blanks between its words, as one of the tokens.
-/

namespace TwinQuery

inductive Operator where
  | equal
  | notEqual
  | greater
  | less
  | greaterEqual
  | lessEqual
  | isIn
  | notIn
  | like
  | notLike
  | isNull
  | isNotNull
  | contains
  | startsWith
  | endsWith
  | neuralSimilar
  | quantumEntangled
  deriving DecidableEq, Repr

namespace Operator

def all : List Operator :=
  [equal, notEqual, greater, less, greaterEqual, lessEqual, isIn, notIn, like, notLike, isNull,
    isNotNull, contains, startsWith, endsWith, neuralSimilar, quantumEntangled]

/-- The operator in SQL text. -/
def token : Operator → String
  | equal => "="
  | notEqual => "!="
  | greater => ">"
  | less => "<"
  | greaterEqual => ">="
  | lessEqual => "<="
  | isIn => "IN"
  | notIn => "NOT IN"
  | like | contains | startsWith | endsWith => "LIKE"
  | notLike => "NOT LIKE"
  | isNull => "IS NULL"
  | isNotNull => "IS NOT NULL"
  | neuralSimilar => "NEUROMATCH"
  | quantumEntangled => "QUANTUM_ENTANGLE"

def wireName : Operator → String
  | equal => "Equal"
  | notEqual => "NotEqual"
  | greater => "GreaterThan"
  | less => "LessThan"
  | greaterEqual => "GreaterEqual"
  | lessEqual => "LessEqual"
  | isIn => "In"
  | notIn => "NotIn"
  | like => "Like"
  | notLike => "NotLike"
  | isNull => "IsNull"
  | isNotNull => "IsNotNull"
  | contains => "Contains"
  | startsWith => "StartsWith"
  | endsWith => "EndsWith"
  | neuralSimilar => "NeuralSimilar"
  | quantumEntangled => "QuantumEntangled"

def debug : Operator → String
  | equal => "Equals"
  | notEqual => "NotEquals"
  | greaterEqual => "GreaterThanOrEqual"
  | lessEqual => "LessThanOrEqual"
  | neuralSimilar => "NeuralSimilarity"
  | quantumEntangled => "QuantumEntanglement"
  | operator => operator.wireName

def takesList : Operator → Bool
  | isIn | notIn => true
  | _ => false

def takesNoValue : Operator → Bool
  | isNull | isNotNull => true
  | _ => false

/-- The spellings of the tokens: that of each operator in SQL text, `LIKE` for the plain
pattern match only, and one more for equality and for its negation. -/
def spellings : List (String × Operator) :=
  [("=", equal), ("==", equal), ("!=", notEqual), ("<>", notEqual), (">", greater), ("<", less),
    (">=", greaterEqual), ("<=", lessEqual), ("IN", isIn), ("NOT IN", notIn), ("LIKE", like),
    ("NOT LIKE", notLike), ("IS NULL", isNull), ("IS NOT NULL", isNotNull),
    ("NEUROMATCH", neuralSimilar), ("QUANTUM_ENTANGLE", quantumEntangled)]

/-- The words of a text in capital letters, one space between each and the next. -/
def normalized (s : String) : String :=
  String.ofList (Text.upper ([' '].intercalate (Text.words s.toList)))

/-- The operator with a name in request bodies. -/
def named? (name : String) : Option Operator :=
  all.find? fun operator => operator.wireName == name

/-- The operator that a text names or spells. -/
def parse (s : String) : Except Error Operator :=
  let trimmed := Text.trim s
  match named? trimmed with
  | some operator => .ok operator
  | none =>
      match spellings.lookup (normalized trimmed) with
      | some operator => .ok operator
      | none => .error (.unknownOperator trimmed)

def decode : Json.Decoder Operator :=
  Json.decodeName (all.map fun operator => (operator.wireName, operator))

end Operator

end TwinQuery
