import TwinQuery.Decimal.Scaled
import TwinQuery.Json.Basic

/-!
# Tokens of JSON text

Reading a JSON text starts by splitting it into tokens: brackets, separators, and the values
that hold no others. Blanks between tokens are dropped. `tokens?` is nothing when some part of
the text starts no token.
-/

namespace TwinQuery.Json

/-- A bracket, a separator, or a value that holds no others. -/
inductive Token where
  | openArray
  | closeArray
  | openObject
  | closeObject
  | comma
  | colon
  | scalar (value : Json)

def isSpace (c : Char) : Bool :=
  c = ' ' || c = '\n' || c = '\t' || c = '\x0d'

/-! ## Strings -/

def hexDigit? (c : Char) : Option Nat :=
  if c.isDigit then some (c.toNat - '0'.toNat)
  else if 'a' ≤ c ∧ c ≤ 'f' then some (c.toNat - 'a'.toNat + 10)
  else if 'A' ≤ c ∧ c ≤ 'F' then some (c.toNat - 'A'.toNat + 10)
  else none

def hexQuad? (a b c d : Char) : Option Nat := do
  return (((← hexDigit? a) * 16 + (← hexDigit? b)) * 16 + (← hexDigit? c)) * 16 + (← hexDigit? d)

/-- The character that a letter after a backslash stands for. -/
def shortEscape? (c : Char) : Option Char :=
  match c with
  | '"' => some '"'
  | '\\' => some '\\'
  | '/' => some '/'
  | 'b' => some '\x08'
  | 'f' => some '\x0c'
  | 'n' => some '\n'
  | 'r' => some '\x0d'
  | 't' => some '\t'
  | _ => none

def escapedUnit? (unit : Nat) : Option Char :=
  if 0xD800 ≤ unit ∧ unit < 0xE000 then none else some (Char.ofNat unit)

/-- The character of a pair of escaped numbers. -/
def escapedPair? (high low : Nat) : Option Char :=
  if 0xD800 ≤ high ∧ high < 0xDC00 ∧ 0xDC00 ≤ low ∧ low < 0xE000 then
    some (Char.ofNat (0x10000 + (high - 0xD800) * 0x400 + (low - 0xDC00)))
  else none

/-- Read a string up to its closing quote: its characters and what follows the quote. Control
characters must be escaped, and an escaped half of a pair must have its other half. -/
def stringRest? : List Char → Option (List Char × List Char)
  | [] => none
  | '"' :: rest => some ([], rest)
  | '\\' :: 'u' :: a :: b :: c :: d :: '\\' :: 'u' :: e :: f :: g :: h :: rest => do
      let first ← hexQuad? a b c d
      match escapedUnit? first with
      | some char =>
          let (text, after) ← stringRest? ('\\' :: 'u' :: e :: f :: g :: h :: rest)
          return (char :: text, after)
      | none =>
          let char ← escapedPair? first (← hexQuad? e f g h)
          let (text, after) ← stringRest? rest
          return (char :: text, after)
  | '\\' :: 'u' :: a :: b :: c :: d :: rest => do
      let char ← escapedUnit? (← hexQuad? a b c d)
      let (text, after) ← stringRest? rest
      return (char :: text, after)
  | '\\' :: c :: rest => do
      let char ← shortEscape? c
      let (text, after) ← stringRest? rest
      return (char :: text, after)
  | c :: rest => do
      if c.toNat < 0x20 ∨ c = '\\' then none
      else
        let (text, after) ← stringRest? rest
        return (c :: text, after)

/-! ## Numbers -/

/-- Extend a number by digits for as long as it fits 64 bits. The answer is the number and how
many digits were left. -/
def absorb : Nat → List Char → Nat × Nat
  | held, [] => (held, 0)
  | held, c :: rest =>
      let next := 10 * held + (c.toNat - '0'.toNat)
      if next < UInt64.size then absorb next rest else (held, rest.length + 1)

/-- The value of a numeral with a fraction or an exponent, in double arithmetic. -/
def fractionValue? (negative : Bool) (whole fraction : List Char) (exponent : Int) :
    Option Json :=
  let (held, left) := absorb 0 whole
  let (held, dropped) := absorb held fraction
  let places : Int := left - (fraction.length - dropped : Nat) + exponent
  (Decimal.scaled? held.toUInt64 places).map fun size =>
    .float (if negative then -size else size)

/-- The value of a numeral without fraction and exponent: a whole number where it fits 64 bits,
and a double otherwise. Zero after a minus sign is the negative zero of doubles. -/
def wholeValue? (negative : Bool) (whole : List Char) : Option Json :=
  let (held, left) := absorb 0 whole
  if left ≠ 0 then fractionValue? negative whole [] 0
  else if !negative then some (.int held)
  else if held = 0 ∨ UInt64.size / 2 < held then some (.float (-held.toUInt64.toFloat))
  else some (.int (-held))

def exponentRest? (cs : List Char) : Option (Int × List Char) :=
  let (negative, cs) :=
    match cs with
    | '-' :: rest => (true, rest)
    | '+' :: rest => (false, rest)
    | cs => (false, cs)
  let digits := cs.takeWhile Char.isDigit
  (Decimal.nat? digits).map fun n =>
    (if negative then -(n : Int) else n, cs.dropWhile Char.isDigit)

/-- Read a number after its sign: its value and what follows. It starts with a digit, and a zero
in front stands alone; a point and an exponent mark are followed by digits. -/
def numberRest? (negative : Bool) (cs : List Char) : Option (Json × List Char) := do
  let whole := cs.takeWhile Char.isDigit
  let rest := cs.dropWhile Char.isDigit
  if whole.isEmpty ∨ (whole.head? = some '0' ∧ 1 < whole.length) then none
  else
    let (fraction, rest, pointed) :=
      match rest with
      | '.' :: rest => (rest.takeWhile Char.isDigit, rest.dropWhile Char.isDigit, true)
      | rest => ([], rest, false)
    if pointed ∧ fraction.isEmpty then none
    else
      match rest with
      | 'e' :: rest | 'E' :: rest =>
          let (exponent, rest) ← exponentRest? rest
          return (← fractionValue? negative whole fraction exponent, rest)
      | rest =>
          if pointed then return (← fractionValue? negative whole fraction 0, rest)
          else return (← wholeValue? negative whole, rest)

/-! ## Tokens -/

/-- The first token of a text that does not start with a blank, and what follows it. -/
def token? : List Char → Option (Token × List Char)
  | '[' :: rest => some (.openArray, rest)
  | ']' :: rest => some (.closeArray, rest)
  | '\x7b' :: rest => some (.openObject, rest)
  | '\x7d' :: rest => some (.closeObject, rest)
  | ',' :: rest => some (.comma, rest)
  | ':' :: rest => some (.colon, rest)
  | 'n' :: 'u' :: 'l' :: 'l' :: rest => some (.scalar .null, rest)
  | 't' :: 'r' :: 'u' :: 'e' :: rest => some (.scalar (.bool true), rest)
  | 'f' :: 'a' :: 'l' :: 's' :: 'e' :: rest => some (.scalar (.bool false), rest)
  | '"' :: rest =>
      (stringRest? rest).map fun (text, after) => (.scalar (.string (String.ofList text)), after)
  | '-' :: rest => (numberRest? true rest).map fun (value, after) => (.scalar value, after)
  | cs => (numberRest? false cs).map fun (value, after) => (.scalar value, after)

/-- The tokens of a text, in order. A token takes at least one character, so the fuel, one more
than the characters left, does not run out. -/
def tokensFrom? : (fuel : Nat) → List Char → Option (List Token)
  | 0, _ => none
  | fuel + 1, cs =>
      match cs.dropWhile isSpace with
      | [] => some []
      | c :: rest => do
          let (token, after) ← token? (c :: rest)
          return token :: (← tokensFrom? fuel after)

def tokens? (cs : List Char) : Option (List Token) :=
  tokensFrom? (cs.length + 1) cs

end TwinQuery.Json
