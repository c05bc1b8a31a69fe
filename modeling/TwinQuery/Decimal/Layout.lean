import TwinQuery.Decimal.Numeral
import TwinQuery.Decimal.Shortest

/-!
# Layouts of decimal numbers

The digits of a double are chosen by `shortest`; a `Layout` says how they are set: up to
which sizes digits stand at their place value and beyond which an exponent is written, and
whether a whole number shows a fraction.
-/

namespace TwinQuery.Decimal

/-- How the digits of a number are set. Numbers whose first digit stands at a decimal exponent
from `positionalFrom` to below `positionalBelow` are written without an exponent. -/
structure Layout where
  tie : Tie
  positionalFrom : Option Int
  positionalBelow : Option Int
  /-- A whole number written without an exponent ends in `.0`. -/
  wholeFraction : Bool
  /-- A positive exponent has a plus sign. -/
  exponentPlus : Bool
  deriving DecidableEq, Repr

def zeros (n : Int) : List Char :=
  List.replicate n.toNat '0'

/-- Digits at their place value, the point after the first `point` of them. -/
def positional (wholeFraction : Bool) (digits : List Char) (point : Int) : List Char :=
  if point ≤ 0 then ['0', '.'] ++ zeros (-point) ++ digits
  else if (digits.length : Int) ≤ point then
    digits ++ zeros (point - digits.length) ++ (if wholeFraction then ['.', '0'] else [])
  else digits.take point.toNat ++ ['.'] ++ digits.drop point.toNat

/-- Digits with the point after the first, and the decimal exponent of that one. -/
def scientific (exponentPlus : Bool) (digits : List Char) (exponent : Int) : List Char :=
  let rest := digits.drop 1
  digits.take 1 ++ (if rest.isEmpty then [] else '.' :: rest) ++ ['e'] ++
    (if exponentPlus && 0 ≤ exponent then ['+'] else []) ++ (ofInt exponent).toList

def Layout.magnitude (layout : Layout) (x : Magnitude) : List Char :=
  let decimal := shortest layout.tie x
  let digits := decimal.significand.repr.toList
  let exponent := decimal.exponent + digits.length - 1
  if layout.positionalFrom.all (· ≤ exponent) && layout.positionalBelow.all (exponent < ·) then
    positional layout.wholeFraction digits (exponent + 1)
  else scientific layout.exponentPlus digits exponent

/-- The text of a double. Zero keeps its sign. -/
def Layout.text (layout : Layout) (x : Float) : String :=
  match magnitude? x with
  | none => if x.isNaN then "NaN" else if isNegative x then "-inf" else "inf"
  | some size =>
      let digits :=
        if size.mantissa = 0 then (if layout.wholeFraction then ['0', '.', '0'] else ['0'])
        else layout.magnitude size
      String.ofList (if isNegative x then '-' :: digits else digits)

/-- Every digit at its place value, however small or large the number. -/
def Layout.plain : Layout :=
  { tie := .away
    positionalFrom := none
    positionalBelow := none
    wholeFraction := false
    exponentPlus := false }

/-- The layout of diagnostics: an exponent below a ten-thousandth and from ten to the sixteenth
on, and at least one decimal otherwise. -/
def Layout.diagnostic : Layout :=
  { tie := .away
    positionalFrom := some (-4)
    positionalBelow := some 16
    wholeFraction := true
    exponentPlus := false }

/-- The layout of JSON text: an exponent, signed, below a hundred-thousandth and from ten to the
sixteenth on, and at least one decimal otherwise. -/
def Layout.json : Layout :=
  { tie := .toEven
    positionalFrom := some (-5)
    positionalBelow := some 16
    wholeFraction := true
    exponentPlus := true }

end TwinQuery.Decimal
