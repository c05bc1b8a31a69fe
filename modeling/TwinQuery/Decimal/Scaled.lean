import TwinQuery.Decimal.Numeral

/-!
# Doubles from decimal numerals

Two rules turn a decimal numeral into a double. `nearest` is the correctly rounded one, used
for numbers given as text. `scaled` is that of the JSON reader: the first digits that fit 64
bits, as a double, multiplied or divided by a power of ten, each step rounded; it may differ
from the former in the last bit.
-/

namespace TwinQuery.Decimal

def powerOfTen (n : Nat) : Float :=
  Float.ofScientific 1 false n

/-- Divide by a power of ten, in steps of at most three hundred and eight places. -/
def divideByPower (x : Float) (places : Nat) : Float :=
  if h : places ≤ 308 then x / powerOfTen places
  else if x == 0 then x
  else divideByPower (x / powerOfTen 308) (places - 308)
termination_by places
decreasing_by omega

/-- `significand * 10 ^ exponent` in double arithmetic, or nothing when it is too large for a
double. -/
def scaled? (significand : UInt64) (exponent : Int) : Option Float :=
  let x := significand.toFloat
  match exponent with
  | .ofNat places =>
      if places ≤ 308 then
        let y := x * powerOfTen places
        if y.isInf then none else some y
      else if x == 0 then some x
      else none
  | .negSucc places => some (divideByPower x (places + 1))

/-- How far beyond the digits of a number its exponent can matter: past four hundred places the
nearest double is zero or infinite. -/
def farPlaces : Int := 400

def nearest (significand : Nat) (exponent : Int) : Float :=
  let digits : Int := (Nat.toDigits 10 significand).length
  match min farPlaces (max (-(digits + farPlaces)) exponent) with
  | .ofNat places => Float.ofScientific significand false places
  | .negSucc places => Float.ofScientific significand true (places + 1)

def spanDigits (cs : List Char) : List Char × List Char :=
  cs.span Char.isDigit

/-- A number of the form `digits[.digits][e[sign]digits]` with at least one digit before the
exponent, correctly rounded. -/
def unsignedFloat? (cs : List Char) : Option Float := do
  let (whole, rest) := spanDigits cs
  let (fraction, rest) :=
    match rest with
    | '.' :: rest => spanDigits rest
    | rest => ([], rest)
  let significand ← nat? (whole ++ fraction)
  let exponent ←
    match rest with
    | [] => some 0
    | mark :: rest =>
        if mark = 'e' ∨ mark = 'E' then
          match rest with
          | '-' :: digits => (nat? digits).map fun n => -(n : Int)
          | '+' :: digits => (nat? digits).map Int.ofNat
          | digits => (nat? digits).map Int.ofNat
        else none
  return nearest significand (exponent - fraction.length)

/-- A decimal number given as text, after an optional sign, or one of the words for infinity
and for no number, in letters of either case. -/
def float? (s : String) : Option Float := do
  let (negative, rest) :=
    match s.toList with
    | '-' :: rest => (true, rest)
    | '+' :: rest => (false, rest)
    | cs => (false, cs)
  let word := String.ofList (rest.map Char.toLower)
  let size ←
    if word = "inf" ∨ word = "infinity" then some (1.0 / 0.0)
    else if word = "nan" then some (0.0 / 0.0)
    else unsignedFloat? rest
  return if negative then -size else size

end TwinQuery.Decimal
