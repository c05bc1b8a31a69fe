import TwinQuery.Text.Blank

/-!
# Numerals of whole numbers

A whole number is written in base ten without leading zeros, a negative one after a minus
sign. Reading is wider than writing: leading zeros and one plus sign are accepted, and the
callers below say where blanks may surround the digits.
-/

namespace TwinQuery.Decimal

def ofInt : Int → String
  | .ofNat n => n.repr
  | .negSucc n => "-" ++ (n + 1).repr

def digit? (c : Char) : Option Nat :=
  if c.isDigit then some (c.toNat - '0'.toNat) else none

/-- The value of a run of digits that continues the number `acc`, or nothing when another
character stands among them. -/
def continueNat? : Nat → List Char → Option Nat
  | acc, [] => some acc
  | acc, c :: rest => (digit? c).bind fun d => continueNat? (10 * acc + d) rest

def nat? : List Char → Option Nat
  | [] => none
  | cs => continueNat? 0 cs

/-- Read an unsigned number of 64 bits: digits, after at most one plus sign. -/
def unsigned64? (cs : List Char) : Option UInt64 :=
  let digits :=
    match cs with
    | '+' :: rest => rest
    | cs => cs
  (nat? digits).bind fun n => if n < UInt64.size then some n.toUInt64 else none

end TwinQuery.Decimal
