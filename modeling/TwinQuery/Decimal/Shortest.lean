/-!
# The shortest decimal that reads back

A finite double stands for every real number that rounds to it. `shortest` picks, among the
decimals in that interval, one with as few digits as possible and, of those, the nearest to
the double. The work is exact: the double is a whole number times a power of two, and each
comparison is one of natural numbers.
-/

namespace TwinQuery.Decimal

/-- Which of two equally near decimals is taken: the one further from zero, or the one whose
last digit is even. -/
inductive Tie where
  | away
  | toEven
  deriving DecidableEq, Repr

/-- The size of a finite double: `mantissa * 2 ^ exponent`. Below a power of two the doubles
lie twice as dense as above it, which `denserBelow` records. -/
structure Magnitude where
  mantissa : Nat
  exponent : Int
  denserBelow : Bool
  deriving DecidableEq, Repr

def isNegative (x : Float) : Bool :=
  x.toBits.toNat.testBit 63

/-- The first bit of a mantissa of full length, which is not stored. -/
def implicitBit : Nat := 1 <<< 52

/-- The size of a double, or nothing when it is infinite or not a number. -/
def magnitude? (x : Float) : Option Magnitude :=
  let bits := x.toBits.toNat
  let field : Nat := (bits >>> 52) % 2048
  let fraction : Nat := bits % implicitBit
  if field = 2047 then none
  else if field = 0 then some ⟨fraction, -1074, false⟩
  else some ⟨implicitBit + fraction, (field : Int) - 1075, fraction = 0 && 1 < field⟩

/-- A decimal: `significand * 10 ^ exponent`. -/
structure Scaled where
  significand : Nat
  exponent : Int
  deriving DecidableEq, Repr

/-- A rational number and the interval of those that are read as the same double, all over one
denominator. The ends belong to the interval when `closed` holds. -/
structure Interval where
  value : Nat
  low : Nat
  high : Nat
  denominator : Nat
  closed : Bool
  deriving DecidableEq, Repr

/-- The interval of a magnitude, in quarters of the unit of its mantissa. -/
def Magnitude.interval (x : Magnitude) : Interval :=
  let up := 1 <<< x.exponent.toNat
  let down := 1 <<< (-x.exponent).toNat
  { value := 4 * x.mantissa * up
    low := (4 * x.mantissa - if x.denserBelow then 1 else 2) * up
    high := (4 * x.mantissa + 2) * up
    denominator := 4 * down
    closed := x.mantissa % 2 = 0 }

/-- The interval on the grid of the multiples of `10 ^ exponent`: grid point `n` is
`n * denominator`. -/
def Interval.onGrid (i : Interval) (exponent : Int) : Interval :=
  let up := Nat.pow 10 (-exponent).toNat
  { value := i.value * up
    low := i.low * up
    high := i.high * up
    denominator := i.denominator * Nat.pow 10 exponent.toNat
    closed := i.closed }

/-- Whether grid point `n` is read as the same double. -/
def Interval.holds (i : Interval) (n : Nat) : Bool :=
  let point := n * i.denominator
  if i.closed then i.low ≤ point && point ≤ i.high else i.low < point && point < i.high

/-- The nearer of the two grid points around the value that are read as the same double. -/
def Interval.nearest? (i : Interval) (tie : Tie) : Option Nat :=
  let below := i.value / i.denominator
  let above := below + 1
  match i.holds below, i.holds above with
  | false, false => none
  | true, false => some below
  | false, true => some above
  | true, true =>
      let rest := i.value % i.denominator
      if 2 * rest < i.denominator then some below
      else if i.denominator < 2 * rest then some above
      else
        match tie with
        | .away => some above
        | .toEven => some (if below % 2 = 0 then below else above)

/-- The decimal exponent of the first digit of `value / denominator`, both positive: the number
of digits of the two differs from it by at most one. -/
def leadingExponent (value denominator : Nat) : Int :=
  let difference : Int := (Nat.toDigits 10 value).length - (Nat.toDigits 10 denominator).length
  if denominator * Nat.pow 10 difference.toNat ≤ value * Nat.pow 10 (-difference).toNat then
    difference
  else difference - 1

/-- Drop the trailing zeros of a decimal, at most `fuel` of them. -/
def Scaled.strip (x : Scaled) : (fuel : Nat) → Scaled
  | 0 => x
  | fuel + 1 =>
      if x.significand % 10 = 0 && x.significand ≠ 0 then
        Scaled.strip ⟨x.significand / 10, x.exponent + 1⟩ fuel
      else x

/-- The shortest decimal that is read as the given magnitude, which is not zero. Seventeen
digits always suffice, so the grids of one to seventeen digits are tried in turn. -/
def shortest (tie : Tie) (x : Magnitude) : Scaled :=
  let interval := x.interval
  let leading := leadingExponent interval.value interval.denominator
  let found := (List.range 17).findSome? fun (n : Nat) =>
    let exponent := leading - n
    ((interval.onGrid exponent).nearest? tie).map fun significand =>
      (⟨significand, exponent⟩ : Scaled)
  (found.getD ⟨x.mantissa, x.exponent⟩).strip 20

end TwinQuery.Decimal
