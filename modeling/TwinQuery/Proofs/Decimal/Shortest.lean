import TwinQuery.Proofs.Decimal.Rounding

/-!
# The shortest decimal of a double

`shortest` searches ever finer grids of decimals for one that is read as the given double. A grid
of seventeen digits always has one, so the search succeeds. What it finds reads back, has the
fewest digits of all decimals that do, and is the nearest of those:
`Magnitude.isShortest_shortest`. The plain text of a finite double is therefore that of no other:
`text_injective`.
-/

namespace TwinQuery.Decimal

def Scaled.value (x : Scaled) : ℚ :=
  x.significand * 10 ^ x.exponent

/-- The number that a spelling stands for is that of the decimal. -/
theorem Scaled.value_eq (x : Scaled) : x.value = x.numerator / 10 ^ x.places := by
  unfold value numerator places
  rw [zpow_eq_div (by norm_num : (10 : ℚ) ≠ 0)]
  push_cast
  exact (mul_div_assoc _ _ _).symm

theorem ten_zpow_pos (exponent : Int) : (0 : ℚ) < 10 ^ exponent :=
  zpow_pos (by norm_num) _

theorem ten_zpow_mul {first second sum : Int} (hsum : first + second = sum) :
    (10 : ℚ) ^ first * 10 ^ second = 10 ^ sum := by
  rw [← zpow_add₀ (by norm_num), hsum]

theorem ten_pow_mul {digits : Nat} {exponent sum : Int} (hsum : digits + exponent = sum) :
    (10 : ℚ) ^ digits * 10 ^ exponent = 10 ^ sum := by
  rw [← zpow_natCast]
  exact ten_zpow_mul hsum

/-! ## The first digit -/

/-- The number of digits says between which powers of ten a number lies. -/
theorem toDigits_bounds {n : Nat} (hn : 0 < n) :
    (10 : ℚ) ^ ((Nat.toDigits 10 n).length - 1 : Int) ≤ n ∧
      (n : ℚ) < 10 ^ ((Nat.toDigits 10 n).length : Int) := by
  generalize hlength : (Nat.toDigits 10 n).length = length
  have hpositive : 0 < length := hlength ▸ Nat.length_toDigits_pos
  have hbelow : n < 10 ^ length :=
    (Nat.length_toDigits_le_iff (by decide) hpositive).1 hlength.le
  have habove : 10 ^ (length - 1) ≤ n := by
    refine Nat.le_of_not_lt fun hlt => ?_
    rcases Nat.eq_zero_or_pos (length - 1) with hzero | hmore
    · rw [hzero] at hlt
      omega
    · have hshorter := (Nat.length_toDigits_le_iff (by decide) hmore).2 hlt
      omega
  have hexponent : (length - 1 : Int) = (length - 1 : Nat) := by omega
  rw [hexponent, zpow_natCast, zpow_natCast]
  exact ⟨by exact_mod_cast habove, by exact_mod_cast hbelow⟩

/-- The comparison of two natural numbers that decides where the first digit stands. -/
theorem mul_pow_le_iff {value denominator : Nat} (hdenominator : 0 < denominator)
    (exponent : Int) :
    denominator * Nat.pow 10 exponent.toNat ≤ value * Nat.pow 10 (-exponent).toNat ↔
      (10 : ℚ) ^ exponent ≤ value / denominator := by
  have hpositive : (0 : ℚ) < denominator := by exact_mod_cast hdenominator
  have hdown : (0 : ℚ) < 10 ^ (-exponent).toNat := by positivity
  rw [zpow_eq_div (by norm_num : (10 : ℚ) ≠ 0), div_le_div_iff₀ hdown hpositive, mul_comm]
  exact_mod_cast Iff.rfl

/-- The leading exponent is the decimal exponent of the first digit. -/
theorem leadingExponent_bounds {value denominator : Nat} (hvalue : 0 < value)
    (hdenominator : 0 < denominator) :
    (10 : ℚ) ^ leadingExponent value denominator ≤ value / denominator ∧
      (value / denominator : ℚ) < 10 ^ (leadingExponent value denominator + 1) := by
  obtain ⟨hvalueLow, hvalueHigh⟩ := toDigits_bounds hvalue
  obtain ⟨hdenominatorLow, hdenominatorHigh⟩ := toDigits_bounds hdenominator
  have hcondition := @mul_pow_le_iff value denominator hdenominator
    ((Nat.toDigits 10 value).length - (Nat.toDigits 10 denominator).length)
  have hpositive : (0 : ℚ) < denominator := by exact_mod_cast hdenominator
  unfold leadingExponent
  simp only [hcondition]
  generalize ((Nat.toDigits 10 value).length : Int) = a at *
  generalize ((Nat.toDigits 10 denominator).length : Int) = b at *
  split
  next hle =>
    refine ⟨hle, (div_lt_iff₀ hpositive).2 ?_⟩
    calc (value : ℚ) < 10 ^ a := hvalueHigh
      _ = 10 ^ (a - b + 1) * 10 ^ (b - 1) := (ten_zpow_mul (by omega)).symm
      _ ≤ 10 ^ (a - b + 1) * denominator :=
          mul_le_mul_of_nonneg_left hdenominatorLow (ten_zpow_pos _).le
  next hlt =>
    rw [Int.sub_add_cancel]
    refine ⟨(le_div_iff₀ hpositive).2 ?_, not_le.1 hlt⟩
    calc (10 : ℚ) ^ (a - b - 1) * denominator ≤ 10 ^ (a - b - 1) * 10 ^ b :=
          mul_le_mul_of_nonneg_left hdenominatorHigh.le (ten_zpow_pos _).le
      _ = 10 ^ (a - 1) := ten_zpow_mul (by omega)
      _ ≤ value := hvalueLow

/-! ## One grid -/

namespace Magnitude

variable {x : Magnitude} {tie : Tie} {exponent : Int}

/-- The common denominator of a size and a grid. -/
def scale (x : Magnitude) (exponent : Int) : ℚ :=
  4 * 2 ^ (-x.exponent).toNat * 10 ^ (-exponent).toNat

theorem scale_pos (x : Magnitude) (exponent : Int) : 0 < x.scale exponent := by
  unfold scale
  positivity

/-- The numerators of a grid are the numbers themselves times the common denominator: here that of
the size, below those of the ends and of the distance between points. -/
theorem value_onGrid (x : Magnitude) (exponent : Int) :
    ((x.interval.onGrid exponent).value : ℚ) = x.value * x.scale exponent := by
  have hdown : (2 : ℚ) ^ (-x.exponent).toNat ≠ 0 := by positivity
  unfold Interval.onGrid interval value scale
  rw [zpow_eq_div (by norm_num : (2 : ℚ) ≠ 0)]
  simp only [Nat.shiftLeft_eq, Nat.one_mul, Nat.pow_eq]
  push_cast
  field_simp

theorem high_onGrid (x : Magnitude) (exponent : Int) :
    ((x.interval.onGrid exponent).high : ℚ) = x.high * x.scale exponent := by
  have hdown : (2 : ℚ) ^ (-x.exponent).toNat ≠ 0 := by positivity
  unfold Interval.onGrid interval high scale
  rw [zpow_eq_div (by norm_num : (2 : ℚ) ≠ 0)]
  simp only [Nat.shiftLeft_eq, Nat.one_mul, Nat.pow_eq]
  push_cast
  field_simp
  ring

theorem low_onGrid (hmantissa : 0 < x.mantissa) (exponent : Int) :
    ((x.interval.onGrid exponent).low : ℚ) = x.low * x.scale exponent := by
  have hdown : (2 : ℚ) ^ (-x.exponent).toNat ≠ 0 := by positivity
  have hquarters : ((4 * x.mantissa - if x.denserBelow then 1 else 2 : Nat) : ℚ) =
      4 * (x.mantissa - if x.denserBelow then 1 / 4 else 1 / 2) := by
    split
    · rw [Nat.cast_sub (by omega)]
      push_cast
      ring
    · rw [Nat.cast_sub (by omega)]
      push_cast
      ring
  unfold Interval.onGrid interval low scale
  rw [zpow_eq_div (by norm_num : (2 : ℚ) ≠ 0)]
  simp only [Nat.shiftLeft_eq, Nat.one_mul, Nat.pow_eq, Nat.cast_mul, hquarters]
  push_cast
  field_simp

theorem denominator_onGrid (x : Magnitude) (exponent : Int) :
    ((x.interval.onGrid exponent).denominator : ℚ) = 10 ^ exponent * x.scale exponent := by
  have hdown : (10 : ℚ) ^ (-exponent).toNat ≠ 0 := by positivity
  unfold Interval.onGrid interval scale
  rw [zpow_eq_div (by norm_num : (10 : ℚ) ≠ 0)]
  simp only [Nat.shiftLeft_eq, Nat.one_mul, Nat.pow_eq]
  push_cast
  field_simp

theorem point_onGrid (x : Magnitude) (exponent : Int) (n : Nat) :
    ((n * (x.interval.onGrid exponent).denominator : Nat) : ℚ) =
      n * 10 ^ exponent * x.scale exponent := by
  rw [Nat.cast_mul, denominator_onGrid, mul_assoc]

/-- What a grid tests of its points is whether they are read as the double. -/
theorem holds_onGrid_iff (hmantissa : 0 < x.mantissa) (exponent : Int) (n : Nat) :
    (x.interval.onGrid exponent).holds n = true ↔ x.Reaches (n * 10 ^ exponent) := by
  have hscale := x.scale_pos exponent
  have hclosed : (x.interval.onGrid exponent).closed = decide (x.mantissa % 2 = 0) := rfl
  unfold Interval.holds
  simp only [hclosed]
  rcases Nat.mod_two_eq_zero_or_one x.mantissa with heven | hodd
  · simp only [heven, decide_true, if_true, Bool.and_eq_true, decide_eq_true_eq]
    rw [← Nat.cast_le (α := ℚ), ← Nat.cast_le (α := ℚ), point_onGrid, low_onGrid hmantissa,
      high_onGrid, mul_le_mul_iff_left₀ hscale, mul_le_mul_iff_left₀ hscale]
    refine ⟨fun hends => ⟨hends.1, hends.2, fun hodd => ?_⟩, fun h => ⟨h.low_le, h.le_high⟩⟩
    rw [heven] at hodd
    exact absurd hodd (by decide)
  · simp only [hodd, one_ne_zero, decide_false, Bool.false_eq_true, if_false, Bool.and_eq_true,
      decide_eq_true_eq]
    rw [← Nat.cast_lt (α := ℚ), ← Nat.cast_lt (α := ℚ), point_onGrid, low_onGrid hmantissa,
      high_onGrid, mul_lt_mul_iff_left₀ hscale, mul_lt_mul_iff_left₀ hscale]
    exact ⟨fun hends => .of_lt hends.1 hends.2, fun h => h.ends hodd⟩

/-- The last grid point that is no larger than the size. -/
def gridFloor (x : Magnitude) (exponent : Int) : Nat :=
  (x.interval.onGrid exponent).value / (x.interval.onGrid exponent).denominator

theorem denominator_onGrid_pos (x : Magnitude) (exponent : Int) :
    0 < (x.interval.onGrid exponent).denominator := by
  rw [← Nat.cast_pos (α := ℚ), denominator_onGrid]
  exact mul_pos (ten_zpow_pos exponent) (x.scale_pos exponent)

/-- The size lies between two neighbouring grid points: this is the lower one. -/
theorem gridFloor_le (x : Magnitude) (exponent : Int) :
    x.gridFloor exponent * 10 ^ exponent ≤ x.value := by
  have hle := Nat.div_mul_le_self (x.interval.onGrid exponent).value
    (x.interval.onGrid exponent).denominator
  rwa [← gridFloor, ← Nat.cast_le (α := ℚ), point_onGrid, value_onGrid,
    mul_le_mul_iff_left₀ (x.scale_pos exponent)] at hle

theorem lt_gridFloor_succ (x : Magnitude) (exponent : Int) :
    x.value < (x.gridFloor exponent + 1 : Nat) * 10 ^ exponent := by
  have hlt := Nat.lt_mul_of_div_lt (Nat.lt_succ_self (x.gridFloor exponent))
    (x.denominator_onGrid_pos exponent)
  rwa [← Nat.cast_lt (α := ℚ), point_onGrid, value_onGrid,
    mul_lt_mul_iff_left₀ (x.scale_pos exponent)] at hlt

theorem rest_onGrid (x : Magnitude) (exponent : Int) :
    (((x.interval.onGrid exponent).value % (x.interval.onGrid exponent).denominator : Nat) : ℚ) =
      (x.value - x.gridFloor exponent * 10 ^ exponent) * x.scale exponent := by
  have hdivision := Nat.div_add_mod' (x.interval.onGrid exponent).value
    (x.interval.onGrid exponent).denominator
  rw [← gridFloor, ← Nat.cast_inj (R := ℚ), Nat.cast_add, point_onGrid, value_onGrid] at hdivision
  rw [sub_mul]
  exact eq_sub_of_add_eq' hdivision

/-- Comparing twice the rest with the denominator tells which grid point is nearer. -/
theorem rest_le_iff :
    2 * ((x.interval.onGrid exponent).value % (x.interval.onGrid exponent).denominator) ≤
        (x.interval.onGrid exponent).denominator ↔
      x.value - x.gridFloor exponent * 10 ^ exponent ≤
        (x.gridFloor exponent + 1 : Nat) * 10 ^ exponent - x.value := by
  rw [← Nat.cast_le (α := ℚ), Nat.cast_mul, rest_onGrid, denominator_onGrid, ← mul_assoc,
    mul_le_mul_iff_left₀ (x.scale_pos exponent)]
  push_cast
  constructor <;> intro hle <;> linarith

theorem le_rest_iff :
    (x.interval.onGrid exponent).denominator ≤
        2 * ((x.interval.onGrid exponent).value % (x.interval.onGrid exponent).denominator) ↔
      (x.gridFloor exponent + 1 : Nat) * 10 ^ exponent - x.value ≤
        x.value - x.gridFloor exponent * 10 ^ exponent := by
  rw [← Nat.cast_le (α := ℚ), Nat.cast_mul, rest_onGrid, denominator_onGrid, ← mul_assoc,
    mul_le_mul_iff_left₀ (x.scale_pos exponent)]
  push_cast
  constructor <;> intro hle <;> linarith

/-- What is taken of the two points next to the value: one that is read as the double, the nearer
one where both are, and nothing where neither is. -/
inductive Takes (i : Interval) : Option Nat → Prop where
  | none (hbelow : i.holds (i.value / i.denominator) = false)
      (habove : i.holds (i.value / i.denominator + 1) = false) : Takes i none
  | below (hholds : i.holds (i.value / i.denominator) = true)
      (hnearer : i.holds (i.value / i.denominator + 1) = true →
        2 * (i.value % i.denominator) ≤ i.denominator) :
      Takes i (some (i.value / i.denominator))
  | above (hholds : i.holds (i.value / i.denominator + 1) = true)
      (hnearer : i.holds (i.value / i.denominator) = true →
        i.denominator ≤ 2 * (i.value % i.denominator)) :
      Takes i (some (i.value / i.denominator + 1))

theorem takes_nearest? (i : Interval) (tie : Tie) : Takes i (i.nearest? tie) := by
  unfold Interval.nearest?
  cases hbelow : i.holds (i.value / i.denominator) <;>
    cases habove : i.holds (i.value / i.denominator + 1) <;>
    simp only [hbelow, habove]
  · exact .none hbelow habove
  · exact .above habove (by simp [hbelow])
  · exact .below hbelow (by simp [habove])
  · split
    next hless => exact .below hbelow fun _ => hless.le
    next hnotless =>
      split
      next hmore => exact .above habove fun _ => hmore.le
      next hnotmore =>
        -- half way between the two points the tie decides
        have hhalf : 2 * (i.value % i.denominator) = i.denominator :=
          Nat.le_antisymm (Nat.le_of_not_lt hnotmore) (Nat.le_of_not_lt hnotless)
        cases tie with
        | away => exact .above habove fun _ => hhalf.ge
        | toEven =>
            dsimp only
            split
            · exact .below hbelow fun _ => hhalf.le
            · exact .above habove fun _ => hhalf.ge

/-- A grid point that is read as the double has one of the two points next to the size between
it and the size, and that point is read as the double as well. -/
theorem Reaches.next_to {m : Nat} (hreach : x.Reaches (m * 10 ^ exponent)) :
    (m * 10 ^ exponent ≤ (x.gridFloor exponent * 10 ^ exponent : ℚ) ∧
      x.Reaches (x.gridFloor exponent * 10 ^ exponent)) ∨
    (((x.gridFloor exponent + 1 : Nat) : ℚ) * 10 ^ exponent ≤ m * 10 ^ exponent ∧
      x.Reaches ((x.gridFloor exponent + 1 : Nat) * 10 ^ exponent)) := by
  have hunit := ten_zpow_pos exponent
  rcases Nat.lt_or_ge (x.gridFloor exponent) m with hlarger | hsmaller
  · have hle : ((x.gridFloor exponent + 1 : Nat) : ℚ) * 10 ^ exponent ≤ m * 10 ^ exponent :=
      mul_le_mul_of_nonneg_right (Nat.cast_le.2 hlarger) hunit.le
    exact .inr ⟨hle, x.reaches_value.between hreach (x.lt_gridFloor_succ exponent).le hle⟩
  · have hle : m * 10 ^ exponent ≤ (x.gridFloor exponent * 10 ^ exponent : ℚ) :=
      mul_le_mul_of_nonneg_right (Nat.cast_le.2 hsmaller) hunit.le
    exact .inl ⟨hle, hreach.between x.reaches_value hle (x.gridFloor_le exponent)⟩

/-- A grid that yields nothing has no point that is read as the double. -/
theorem not_reaches_of_nearest?_eq_none (hmantissa : 0 < x.mantissa)
    (hnone : (x.interval.onGrid exponent).nearest? tie = none) (m : Nat) :
    ¬x.Reaches (m * 10 ^ exponent) := by
  intro hreach
  have htakes := takes_nearest? (x.interval.onGrid exponent) tie
  rw [hnone] at htakes
  cases htakes with
  | none hbelow habove =>
  rcases hreach.next_to with ⟨-, hfloor⟩ | ⟨-, hnext⟩
  · rw [← holds_onGrid_iff hmantissa, gridFloor, hbelow] at hfloor
    exact Bool.noConfusion hfloor
  · rw [← holds_onGrid_iff hmantissa, gridFloor, habove] at hnext
    exact Bool.noConfusion hnext

/-- What a grid yields is read as the double, and no other of its points that are is nearer. -/
theorem reaches_of_nearest? (hmantissa : 0 < x.mantissa) {n : Nat}
    (hnearest : (x.interval.onGrid exponent).nearest? tie = some n) :
    x.Reaches (n * 10 ^ exponent) ∧ ∀ m : Nat, x.Reaches (m * 10 ^ exponent) →
      |n * 10 ^ exponent - x.value| ≤ |m * 10 ^ exponent - x.value| := by
  have hbelow := x.gridFloor_le exponent
  have habove := x.lt_gridFloor_succ exponent
  have htakes := takes_nearest? (x.interval.onGrid exponent) tie
  rw [hnearest] at htakes
  cases htakes with
  | below hholds hnearer =>
      rw [← gridFloor] at hholds hnearer ⊢
      refine ⟨(holds_onGrid_iff hmantissa exponent _).1 hholds, fun m hreach => ?_⟩
      rw [abs_sub_comm, abs_of_nonneg (sub_nonneg.2 hbelow)]
      rcases hreach.next_to with ⟨hle, -⟩ | ⟨hle, hnext⟩
      · have hdistance := neg_le_abs (m * 10 ^ exponent - x.value)
        linarith
      · have hhalf := rest_le_iff.1 (hnearer ((holds_onGrid_iff hmantissa exponent _).2 hnext))
        have hdistance := le_abs_self (m * 10 ^ exponent - x.value)
        linarith
  | above hholds hnearer =>
      rw [← gridFloor] at hholds hnearer ⊢
      refine ⟨(holds_onGrid_iff hmantissa exponent _).1 hholds, fun m hreach => ?_⟩
      rw [abs_of_pos (sub_pos.2 habove)]
      rcases hreach.next_to with ⟨hle, hfloor⟩ | ⟨hle, -⟩
      · have hhalf := le_rest_iff.1 (hnearer ((holds_onGrid_iff hmantissa exponent _).2 hfloor))
        have hdistance := neg_le_abs (m * 10 ^ exponent - x.value)
        linarith
      · have hdistance := le_abs_self (m * 10 ^ exponent - x.value)
        linarith

/-! ## Seventeen digits suffice -/

/-- A grid whose points lie no further apart than the sixteenth decimal of the size has a point
that is read as the double. -/
theorem nearest?_ne_none (hdouble : x.IsDouble) (hmantissa : 0 < x.mantissa)
    (hfine : 10 ^ 16 * (10 : ℚ) ^ exponent ≤ x.value) :
    (x.interval.onGrid exponent).nearest? tie ≠ none := by
  intro hnone
  have hunit := x.unit_pos
  have hbelow := x.gridFloor_le exponent
  have habove := x.lt_gridFloor_succ exponent
  have hnotbelow := not_reaches_of_nearest?_eq_none hmantissa hnone (x.gridFloor exponent)
  have hnotabove := not_reaches_of_nearest?_eq_none hmantissa hnone (x.gridFloor exponent + 1)
  have hgap : ((x.gridFloor exponent + 1 : Nat) : ℚ) * 10 ^ exponent =
      x.gridFloor exponent * 10 ^ exponent + 10 ^ exponent := by
    push_cast
    ring
  have hlow := x.low_lt_value
  have hhigh := x.value_lt_high
  have hhighest : x.high ≤ (x.gridFloor exponent + 1 : Nat) * 10 ^ exponent :=
    le_of_not_gt fun hlt => hnotabove (.of_lt (hlow.trans habove) hlt)
  have hlowest : x.gridFloor exponent * 10 ^ exponent ≤ x.low :=
    le_of_not_gt fun hlt => hnotbelow (.of_lt hlt (hbelow.trans_lt hhigh))
  -- otherwise the points around the size lie further apart than the ends of the interval
  by_cases hdenser : x.denserBelow = true
  · have hfirst : (x.mantissa : ℚ) = 2 ^ 52 := by
      exact_mod_cast (hdouble.denser_iff.1 hdenser).1
    unfold high value at *
    rw [hfirst] at hfine hbelow hhighest
    linarith
  · have hshort : (x.mantissa : ℚ) ≤ 2 ^ 53 := by exact_mod_cast hdouble.short.le
    unfold high low value at *
    rw [if_neg hdenser] at hlowest
    nlinarith

/-! ## The search -/

def leading (x : Magnitude) : Int :=
  leadingExponent x.interval.value x.interval.denominator

/-- The leading exponent of a size is that of the largest power of ten up to it. -/
theorem leading_bounds (hmantissa : 0 < x.mantissa) :
    (10 : ℚ) ^ x.leading ≤ x.value ∧ x.value < 10 ^ (x.leading + 1) := by
  have hgrid : x.interval.onGrid 0 = x.interval := by simp [Interval.onGrid]
  have hscale := x.scale_pos 0
  have hvalue := x.value_onGrid 0
  have hdenominator := x.denominator_onGrid 0
  have hpositive := x.denominator_onGrid_pos 0
  rw [hgrid] at hvalue hdenominator hpositive
  rw [zpow_zero, one_mul] at hdenominator
  have hquotient : (x.interval.value / x.interval.denominator : ℚ) = x.value := by
    rw [hvalue, hdenominator, mul_div_cancel_right₀ _ hscale.ne']
  have hnumerator : 0 < x.interval.value := by
    rw [← Nat.cast_pos (α := ℚ), hvalue]
    exact mul_pos ((low_pos hmantissa).trans x.low_lt_value) hscale
  rw [← hquotient]
  exact leadingExponent_bounds hnumerator hpositive

end Magnitude

/-- What a search through the first natural numbers finds is found at the first number that yields
anything. -/
theorem exists_of_findSome?_range {α : Type} {f : Nat → Option α} {n : Nat} {a : α}
    (hfound : (List.range n).findSome? f = some a) :
    ∃ k < n, f k = some a ∧ ∀ j < k, f j = none := by
  induction n with
  | zero => simp at hfound
  | succ n ih =>
      rw [List.range_succ, List.findSome?_append] at hfound
      cases hearlier : (List.range n).findSome? f with
      | some b =>
          rw [hearlier] at hfound
          obtain rfl : b = a := by simpa using hfound
          obtain ⟨k, hk, hrest⟩ := ih hearlier
          exact ⟨k, Nat.lt_succ_of_lt hk, hrest⟩
      | none =>
          rw [hearlier] at hfound
          have hlast : f n = some a := by simpa using hfound
          exact ⟨n, Nat.lt_succ_self n, hlast, fun j hj =>
            List.findSome?_eq_none_iff.1 hearlier j (List.mem_range.2 hj)⟩

/-- The search ends at the first grid that has a point which is read as the double. -/
theorem shortest_eq {x : Magnitude} (hdouble : x.IsDouble) (hmantissa : 0 < x.mantissa)
    (tie : Tie) :
    ∃ k n : Nat, k < 17 ∧
      (x.interval.onGrid (x.leading - k)).nearest? tie = some n ∧
      (∀ j : Nat, j < k → (x.interval.onGrid (x.leading - j)).nearest? tie = none) ∧
      shortest tie x = (⟨n, x.leading - k⟩ : Scaled).strip 20 := by
  unfold shortest
  simp only
  rw [← Magnitude.leading]
  generalize hsearch : (List.range 17).findSome? _ = found
  cases found with
  | none =>
      have hlast := List.findSome?_eq_none_iff.1 hsearch 16 (by simp)
      have hfine : 10 ^ 16 * (10 : ℚ) ^ (x.leading - (16 : Nat)) ≤ x.value := by
        rw [ten_pow_mul (add_sub_cancel _ _)]
        exact (Magnitude.leading_bounds hmantissa).1
      exact absurd (Option.map_eq_none_iff.1 hlast)
        (Magnitude.nearest?_ne_none hdouble hmantissa hfine)
  | some decimal =>
      obtain ⟨k, hk, hfound, hearlier⟩ := exists_of_findSome?_range hsearch
      obtain ⟨n, hn, rfl⟩ := Option.map_eq_some_iff.1 hfound
      exact ⟨k, n, hk, hn, fun j hj => Option.map_eq_none_iff.1 (hearlier j hj), rfl⟩

/-! ## Trailing zeros -/

/-- Dropping trailing zeros keeps the number. -/
theorem Scaled.value_strip (x : Scaled) (fuel : Nat) : (x.strip fuel).value = x.value := by
  induction fuel generalizing x with
  | zero => rfl
  | succ fuel ih =>
      rw [strip]
      split
      next hzero =>
        obtain ⟨hlast, -⟩ := Bool.and_eq_true_iff.1 hzero
        have hten : (x.significand : ℚ) = (x.significand / 10 : Nat) * 10 := by
          have := Nat.div_mul_cancel (Nat.dvd_of_mod_eq_zero (of_decide_eq_true hlast))
          exact_mod_cast this.symm
        rw [ih, value, value, zpow_add_one₀ (by norm_num), hten]
        ring
      next => rfl

theorem Scaled.significand_strip_le (x : Scaled) (fuel : Nat) :
    (x.strip fuel).significand ≤ x.significand := by
  induction fuel generalizing x with
  | zero => exact Nat.le_refl _
  | succ fuel ih =>
      rw [strip]
      split
      · exact (ih _).trans (Nat.div_le_self _ _)
      · exact Nat.le_refl _

/-- Of a power of ten the first digit is left. -/
theorem Scaled.significand_strip_pow {zeros fuel : Nat} (hfuel : zeros ≤ fuel) (exponent : Int) :
    ((⟨10 ^ zeros, exponent⟩ : Scaled).strip fuel).significand = 1 := by
  induction zeros generalizing fuel exponent with
  | zero => cases fuel <;> simp [strip]
  | succ zeros ih =>
      obtain ⟨fuel, rfl⟩ := Nat.exists_eq_succ_of_ne_zero (Nat.ne_zero_of_lt hfuel)
      have hzero : (10 ^ (zeros + 1) % 10 = 0 && 10 ^ (zeros + 1) ≠ 0 : Bool) = true := by
        simp [Nat.pow_succ]
      rw [strip, if_pos hzero, Nat.pow_succ, Nat.mul_div_cancel _ (by decide)]
      exact ih (Nat.le_of_succ_le_succ hfuel) _

/-! ## The fewest digits -/

/-- What it means that a decimal is the shortest of a double: it is read as the double, no decimal
that is has fewer digits, and none with as few digits is nearer. -/
structure Magnitude.IsShortest (x : Magnitude) (decimal : Scaled) : Prop where
  reads : x.Reaches decimal.value
  fewest (other : Scaled) (hreads : x.Reaches other.value) :
    decimal.significand.repr.length ≤ other.significand.repr.length
  nearest (other : Scaled) (hreads : x.Reaches other.value)
    (hlength : other.significand.repr.length ≤ decimal.significand.repr.length) :
    |decimal.value - x.value| ≤ |other.value - x.value|

namespace Magnitude

variable {x : Magnitude} {tie : Tie}

/-- A decimal of few digits that is read as the double is matched, on the grid with as many
digits, by a point that is no further away. -/
theorem exists_gridPoint (hmantissa : 0 < x.mantissa) {other : Scaled} {k : Nat}
    (hdigits : other.significand < 10 ^ (k + 1)) (hreads : x.Reaches other.value) :
    ∃ m : Nat, x.Reaches (m * 10 ^ (x.leading - k)) ∧
      |m * 10 ^ (x.leading - k) - x.value| ≤ |other.value - x.value| := by
  have hleading := (leading_bounds hmantissa).1
  rcases lt_or_ge other.exponent (x.leading - k) with hfiner | hcoarser
  · -- the decimal is so small that the first power of ten below the size lies between them
    have hpower : ((10 ^ k : Nat) : ℚ) * 10 ^ (x.leading - k) = 10 ^ x.leading := by
      rw [Nat.cast_pow, Nat.cast_ofNat, ten_pow_mul (add_sub_cancel _ _)]
    have hbelow : other.value ≤ 10 ^ x.leading := by
      calc other.value ≤ 10 ^ (k + 1) * 10 ^ other.exponent :=
            mul_le_mul_of_nonneg_right (by exact_mod_cast hdigits.le) (ten_zpow_pos _).le
        _ = 10 ^ ((k + 1 : Nat) + other.exponent) := ten_pow_mul rfl
        _ ≤ 10 ^ x.leading := zpow_le_zpow_right₀ (by norm_num) (by omega)
    refine ⟨10 ^ k, ?_, ?_⟩
    · rw [hpower]
      exact hreads.between x.reaches_value hbelow hleading
    · rw [hpower, abs_sub_comm, abs_of_nonneg (sub_nonneg.2 hleading)]
      have hdistance := neg_le_abs (other.value - x.value)
      linarith
  · -- the decimal itself is on the grid
    have hpoint : ((other.significand * 10 ^ (other.exponent - (x.leading - k)).toNat : Nat) : ℚ) *
        10 ^ (x.leading - k) = other.value := by
      have hsum : ((other.exponent - (x.leading - k)).toNat : Int) + (x.leading - k) =
          other.exponent := by omega
      rw [Nat.cast_mul, Nat.cast_pow, Nat.cast_ofNat, mul_assoc, ten_pow_mul hsum, Scaled.value]
    exact ⟨_, hpoint.symm ▸ hreads, by rw [hpoint]⟩

theorem significand_lt_of_length {n k : Nat} (hlength : n.repr.length ≤ k + 1) :
    n < 10 ^ (k + 1) :=
  (Nat.length_repr_le_iff (Nat.succ_pos k)).1 hlength

/-- A point that the grid of `k + 1` digits yields has no more digits than that, its trailing
zeros apart. -/
theorem length_strip_le (hmantissa : 0 < x.mantissa) {k n : Nat} (hk : k < 17)
    (hnearest : (x.interval.onGrid (x.leading - k)).nearest? tie = some n) :
    ((⟨n, x.leading - k⟩ : Scaled).strip 20).significand.repr.length ≤ k + 1 := by
  have hfloor : x.gridFloor (x.leading - k) < 10 ^ (k + 1) := by
    have hle := (x.gridFloor_le (x.leading - k)).trans_lt (leading_bounds hmantissa).2
    have hpower : (10 : ℚ) ^ (k + 1) * 10 ^ (x.leading - k) = 10 ^ (x.leading + 1) :=
      ten_pow_mul (by omega)
    rw [← hpower, mul_lt_mul_iff_left₀ (ten_zpow_pos _)] at hle
    exact_mod_cast hle
  have hn : n ≤ 10 ^ (k + 1) := by
    have htakes := takes_nearest? (x.interval.onGrid (x.leading - k)) tie
    rw [hnearest] at htakes
    cases htakes with
    | below => exact hfloor.le
    | above => exact hfloor
  rw [Nat.length_repr_le_iff (Nat.succ_pos k)]
  rcases Nat.lt_or_eq_of_le hn with hlt | rfl
  · exact (Scaled.significand_strip_le _ _).trans_lt hlt
  · rw [Scaled.significand_strip_pow (by omega)]
    exact Nat.one_lt_pow (Nat.succ_ne_zero k) (by decide)

/-- The search yields the shortest decimal of every double but zero. -/
theorem isShortest_shortest (hdouble : x.IsDouble) (hmantissa : 0 < x.mantissa) (tie : Tie) :
    x.IsShortest (shortest tie x) := by
  obtain ⟨k, n, hk, hnearest, hearlier, heq⟩ := shortest_eq hdouble hmantissa tie
  obtain ⟨hreads, hnearer⟩ := reaches_of_nearest? hmantissa hnearest
  have hlength := length_strip_le hmantissa hk hnearest
  have hvalue := Scaled.value_strip ⟨n, x.leading - k⟩ 20
  rw [← heq] at hlength hvalue
  constructor
  case reads =>
    rw [hvalue]
    exact hreads
  case fewest =>
    intro other hother
    refine Nat.le_of_not_lt fun hshorter => ?_
    -- a grid of fewer digits would have ended the search
    obtain ⟨j, hj⟩ := Nat.exists_eq_succ_of_ne_zero (Nat.ne_of_gt (Nat.length_repr_pos))
    obtain ⟨m, hm, -⟩ := exists_gridPoint hmantissa (significand_lt_of_length hj.le) hother
    exact not_reaches_of_nearest?_eq_none hmantissa (hearlier j (by omega)) m hm
  case nearest =>
    intro other hother hdigits
    obtain ⟨m, hm, hdistance⟩ := exists_gridPoint hmantissa
      (significand_lt_of_length (hdigits.trans hlength)) hother
    rw [hvalue]
    exact (hnearer m hm).trans hdistance

-- the double nearest to one tenth
example : shortest .away ⟨7205759403792794, -56, false⟩ = ⟨1, -1⟩ := by decide

end Magnitude

/-! ## What a double shows -/

/-- What is shown of a finite double is read as the double. -/
theorem reaches_shownSize {x : Float} {size : Magnitude} (hsize : magnitude? x = some size) :
    size.Reaches (shownSize x).value := by
  unfold shownSize
  rw [hsize]
  simp only
  split
  next hzero =>
    have hvalue : size.value = (⟨0, 0⟩ : Scaled).value := by
      simp [Magnitude.value, Scaled.value, hzero]
    rw [← hvalue]
    exact size.reaches_value
  next hmantissa =>
    exact (Magnitude.isShortest_shortest (isDouble_of_magnitude? hsize)
      (Nat.pos_of_ne_zero hmantissa) .away).reads

/-- The rational number that the plain text of a double shows. -/
def shown (x : Float) : ℚ :=
  (if isNegative x then -1 else 1) * (shownSize x).value

/-- A size that is nearest among sizes is so with signs too: a size of the other sign is only
further away. -/
theorem abs_signed_sub_le {a b c : ℚ} (ha : 0 ≤ a) (hc : 0 ≤ c) (hle : |a - b| ≤ |a - c|)
    (negative other : Bool) :
    |(if negative then -1 else 1) * a - (if negative then -1 else 1) * b| ≤
      |(if negative then -1 else 1) * a - (if other then -1 else 1) * c| := by
  have hmirror : |a - c| ≤ |a + c| := by
    rw [abs_of_nonneg (add_nonneg ha hc), abs_le]
    constructor <;> linarith
  have hnegate (r t : ℚ) : |-1 * r - -1 * t| = |r - t| := by
    rw [neg_one_mul, neg_one_mul, neg_sub_neg, abs_sub_comm]
  cases negative <;> cases other <;> simp only [Bool.false_eq_true, if_false, if_true]
  · rwa [one_mul, one_mul, one_mul]
  · rw [one_mul, one_mul, neg_one_mul, sub_neg_eq_add]
    exact hle.trans hmirror
  · have hsum : |-1 * a - 1 * c| = |a + c| := by
      rw [neg_one_mul, one_mul, ← abs_neg, neg_sub, sub_neg_eq_add, add_comm]
    rw [hnegate, hsum]
    exact hle.trans hmirror
  · rwa [hnegate, hnegate]

/-- Of all finite doubles none is nearer to what is shown of a double than the double itself. -/
theorem abs_shown_sub_le {x y : Float} {p q : ℚ} (hx : rational? x = some p)
    (hy : rational? y = some q) : |shown x - p| ≤ |shown x - q| := by
  obtain ⟨a, ha, rfl⟩ := Option.map_eq_some_iff.1 hx
  obtain ⟨b, hb, rfl⟩ := Option.map_eq_some_iff.1 hy
  have hnearest : |(shownSize x).value - a.value| ≤ |(shownSize x).value - b.value| :=
    (reaches_shownSize ha).abs_sub_le (isDouble_of_magnitude? ha) (isDouble_of_magnitude? hb)
  have hshown : 0 ≤ (shownSize x).value := by
    unfold Scaled.value
    positivity
  have hother : 0 ≤ b.value := by
    unfold Magnitude.value
    positivity
  exact abs_signed_sub_le hshown hother hnearest (isNegative x) (isNegative y)

/-- A finite double is determined by its sign and what is shown of its size. -/
theorem eq_of_shownSize {x y : Float} (hx : x.isFinite = true) (hy : y.isFinite = true)
    (hsign : isNegative x = isNegative y)
    (hvalue : (shownSize x).value = (shownSize y).value) : x = y := by
  obtain ⟨a, ha⟩ := Option.ne_none_iff_exists'.1 (magnitude?_ne_none hx)
  obtain ⟨b, hb⟩ := Option.ne_none_iff_exists'.1 (magnitude?_ne_none hy)
  have hother := reaches_shownSize hb
  rw [← hvalue] at hother
  obtain rfl := (reaches_shownSize ha).unique (isDouble_of_magnitude? ha)
    (isDouble_of_magnitude? hb) hother
  exact eq_of_size ha hb hsign

/-- Different finite doubles have different plain texts. -/
theorem text_injective {x y : Float} (hx : x.isFinite = true) (hy : y.isFinite = true)
    (htext : Layout.plain.text x = Layout.plain.text y) : x = y := by
  obtain ⟨digits, hxtext, hxspells⟩ := exists_spells_of_isFinite hx
  obtain ⟨others, hytext, hyspells⟩ := exists_spells_of_isFinite hy
  rw [htext, hytext] at hxtext
  obtain ⟨hsign, rfl⟩ := hyspells.eq_of_signed_eq hxspells hxtext
  obtain ⟨hnumerator, hplaces⟩ := hxspells.unique hyspells
  refine eq_of_shownSize hx hy hsign.symm ?_
  rw [Scaled.value_eq, Scaled.value_eq, hnumerator, hplaces]

end TwinQuery.Decimal
