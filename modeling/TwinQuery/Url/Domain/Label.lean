import TwinQuery.Text.Composition
import TwinQuery.Text.Direction
import TwinQuery.Text.Joining
import TwinQuery.Text.Parts

/-!
# Labels of domain names

A label is what stands between two full stops of a name. Its characters have to go together: it
does not start with a mark, a joiner stands only where it changes how letters are written, and
in a name that is written from right to left in part, every label has one direction.
-/

namespace TwinQuery.Url.Domain

open Text (Direction)

def labels (name : List Char) : List (List Char) :=
  Text.parts (· == '.') name

/-! ## Joiners -/

/-- The character that joins letters. -/
def joiner : Char := '\u200D'

def nonJoiner : Char := '\u200C'

/-- Whether a joiner or its opposite may stand between two texts, the first one given backwards:
both may after a virama, and what keeps letters apart may between letters that would join. -/
def joinsProperly (before : List Char) (c : Char) (after : List Char) : Bool :=
  let next? (cs : List Char) : Option Char := (cs.dropWhile Text.isTransparent).head?
  (before.head?.any Text.isVirama) ||
    (c == nonJoiner && (next? before).any Text.joinsNext && (next? after).any Text.joinsPrevious)

/-- Whether the joiners in a text, after another one given backwards, stand where they may. -/
def joinersFit (before : List Char) : List Char → Bool
  | [] => true
  | c :: rest =>
      (!(c == joiner || c == nonJoiner) || joinsProperly before c rest) &&
        joinersFit (c :: before) rest

/-! ## Direction -/

def runsBackwards (c : Char) : Bool :=
  match Text.direction c with
  | .rightToLeft | .arabicNumber => true
  | _ => false

/-- The directions of a label without those of the marks at its end. -/
def directions (label : List Char) : List Direction :=
  ((label.map Text.direction).reverse.dropWhile (· == .attached)).reverse

/-- Whether directions are those of a label from left to right. -/
def runsRight (given : List Direction) : Bool :=
  given.all (fun d => !(d == .rightToLeft || d == .arabicNumber)) &&
    given.getLast?.all (fun d => d == .leftToRight || d == .europeanNumber)

/-- Whether directions are those of a label from right to left. It holds numbers of one kind. -/
def runsLeft (given : List Direction) : Bool :=
  given.all (· != .leftToRight) &&
    given.getLast?.all (fun d => !(d == .neutral || d == .attached)) &&
    !(given.contains .europeanNumber && given.contains .arabicNumber)

/-- Whether a label of a name that is written from right to left in part has one direction,
which its first character gives. -/
def hasOneDirection (label : List Char) : Bool :=
  let given := directions label
  match label.map Text.direction with
  | [] => true
  | .leftToRight :: _ => runsRight given
  | .rightToLeft :: _ => runsLeft given
  | _ => false

/-! ## Labels -/

def isAscii (cs : List Char) : Bool :=
  cs.all fun c => c.toNat < 0x80

def longest : Nat := 1000

/-- Whether the characters of a label go together, apart from their directions. -/
def isWellFormed (label : List Char) : Bool :=
  !label.head?.any Text.isMark && joinersFit [] label &&
    (isAscii label || label.length ≤ longest)

end TwinQuery.Url.Domain
