import TwinQuery.Proofs.Decimal.Exact

/-!
# Rounding intervals

A number between two doubles is read as the nearer of them, and half way between them as the one
with the even mantissa. `Reaches` says so of the size of one double, by an interval around it.
The intervals of different doubles do not meet (`Reaches.unique`), and a number in the interval of
a double is nearer to it than to any other (`Reaches.abs_sub_le`).
-/

namespace TwinQuery.Decimal

namespace Magnitude

def value (x : Magnitude) : ℚ :=
  x.mantissa * 2 ^ x.exponent

/-- The lower end of the numbers that are read as the double: half a unit of the mantissa below
it, a quarter where the doubles lie twice as dense. -/
def low (x : Magnitude) : ℚ :=
  (x.mantissa - if x.denserBelow then 1 / 4 else 1 / 2) * 2 ^ x.exponent

def high (x : Magnitude) : ℚ :=
  (x.mantissa + 1 / 2) * 2 ^ x.exponent

/-- A number is read as the double of this size. The ends lie half way to the neighbours and are
read as the double only if its mantissa is even. -/
structure Reaches (x : Magnitude) (q : ℚ) : Prop where
  low_le : x.low ≤ q
  le_high : q ≤ x.high
  ends : x.mantissa % 2 = 1 → x.low < q ∧ q < x.high

/-- What the size of a double satisfies: the mantissa has at most fifty-three bits, and exactly so
many above the least exponent. -/
structure IsDouble (x : Magnitude) : Prop where
  short : x.mantissa < 2 ^ 53
  least : -1074 ≤ x.exponent
  full : -1074 < x.exponent → 2 ^ 52 ≤ x.mantissa
  denser_iff : x.denserBelow = true ↔ x.mantissa = 2 ^ 52 ∧ -1074 < x.exponent

def Before (x y : Magnitude) : Prop :=
  x.exponent < y.exponent ∨ x.exponent = y.exponent ∧ x.mantissa < y.mantissa

/-! ## The interval of one double -/

theorem unit_pos (x : Magnitude) : (0 : ℚ) < 2 ^ x.exponent :=
  zpow_pos (by norm_num) _

theorem low_lt_value (x : Magnitude) : x.low < x.value := by
  have hunit := x.unit_pos
  unfold low value
  split <;> nlinarith

theorem value_lt_high (x : Magnitude) : x.value < x.high := by
  have hunit := x.unit_pos
  unfold high value
  nlinarith

theorem low_pos {x : Magnitude} (hmantissa : 0 < x.mantissa) : 0 < x.low := by
  have hone : (1 : ℚ) ≤ x.mantissa := by exact_mod_cast hmantissa
  have hunit := x.unit_pos
  unfold low
  split <;> nlinarith

theorem Reaches.of_lt {x : Magnitude} {q : ℚ} (hlow : x.low < q) (hhigh : q < x.high) :
    x.Reaches q :=
  ⟨hlow.le, hhigh.le, fun _ => ⟨hlow, hhigh⟩⟩

/-- A double is read as itself. -/
theorem reaches_value (x : Magnitude) : x.Reaches x.value :=
  .of_lt x.low_lt_value x.value_lt_high

/-- Between two numbers that are read as a double there are no others. -/
theorem Reaches.between {x : Magnitude} {p q r : ℚ} (hp : x.Reaches p) (hr : x.Reaches r)
    (hpq : p ≤ q) (hqr : q ≤ r) : x.Reaches q where
  low_le := hp.low_le.trans hpq
  le_high := hqr.trans hr.le_high
  ends hodd := ⟨(hp.ends hodd).1.trans_le hpq, hqr.trans_lt (hr.ends hodd).2⟩

/-! ## Two doubles -/

section Neighbours

variable {x y : Magnitude}

/-- The unit of the mantissa at least doubles with the exponent. -/
theorem unit_le_of_exponent_lt (hlt : x.exponent < y.exponent) :
    2 * (2 : ℚ) ^ x.exponent ≤ 2 ^ y.exponent := by
  have hstep : (2 : ℚ) * 2 ^ x.exponent = 2 ^ (x.exponent + 1) := by
    rw [zpow_add_one₀ (by norm_num), mul_comm]
  rw [hstep]
  exact zpow_le_zpow_right₀ (by norm_num) hlt

/-- The upper end of a double lies at most half way to any later one, and before half way when
both mantissas are even. -/
theorem high_le_middle (hx : x.IsDouble) (hy : y.IsDouble) (hbefore : x.Before y) :
    2 * x.high ≤ x.value + y.value ∧
      (x.mantissa % 2 = 0 → y.mantissa % 2 = 0 → 2 * x.high < x.value + y.value) := by
  have hunit := x.unit_pos
  unfold high value
  rcases hbefore with hexponent | ⟨hexponent, hmantissa⟩
  · have hunits := unit_le_of_exponent_lt hexponent
    have hfull : (2 ^ 52 : ℚ) ≤ y.mantissa := by
      exact_mod_cast hy.full (hx.least.trans_lt hexponent)
    have hshort : (x.mantissa : ℚ) + 1 ≤ 2 ^ 53 := by exact_mod_cast hx.short
    have hnext : (2 ^ 52 : ℚ) * (2 * 2 ^ x.exponent) ≤ y.mantissa * 2 ^ y.exponent :=
      mul_le_mul hfull hunits (by positivity) (Nat.cast_nonneg _)
    refine ⟨by nlinarith, fun heven _ => ?_⟩
    -- the last mantissa of an exponent is odd
    have hmargin : (x.mantissa : ℚ) + 2 ≤ 2 ^ 53 := by
      have := hx.short
      exact_mod_cast (by omega : x.mantissa + 2 ≤ 2 ^ 53)
    nlinarith
  · rw [← hexponent]
    have hnext : (x.mantissa : ℚ) + 1 ≤ y.mantissa := by exact_mod_cast hmantissa
    refine ⟨by nlinarith, fun hx hy => ?_⟩
    have hmargin : (x.mantissa : ℚ) + 2 ≤ y.mantissa := by
      exact_mod_cast (by omega : x.mantissa + 2 ≤ y.mantissa)
    nlinarith

/-- The lower end of a double lies at least half way from any earlier one. -/
theorem middle_le_low (hx : x.IsDouble) (hy : y.IsDouble) (hbefore : x.Before y) :
    x.value + y.value ≤ 2 * y.low := by
  have hunit := x.unit_pos
  unfold low value
  rcases hbefore with hexponent | ⟨hexponent, hmantissa⟩
  · have hunits := unit_le_of_exponent_lt hexponent
    have hleast : -1074 < y.exponent := hx.least.trans_lt hexponent
    have hshort : (x.mantissa : ℚ) + 1 ≤ 2 ^ 53 := by exact_mod_cast hx.short
    by_cases hfirst : y.mantissa = 2 ^ 52
    · rw [if_pos (hy.denser_iff.2 ⟨hfirst, hleast⟩), hfirst]
      push_cast
      nlinarith
    · rw [if_neg fun hdense => hfirst (hy.denser_iff.1 hdense).1]
      have hmore : (2 ^ 52 : ℚ) + 1 ≤ y.mantissa := by
        have := hy.full hleast
        exact_mod_cast (by omega : 2 ^ 52 + 1 ≤ y.mantissa)
      nlinarith
  · rw [← hexponent]
    have hnext : (x.mantissa : ℚ) + 1 ≤ y.mantissa := by exact_mod_cast hmantissa
    split <;> nlinarith

/-- Sizes of doubles are the same or one comes before the other. -/
theorem before_trichotomy (hx : x.IsDouble) (hy : y.IsDouble) :
    x.Before y ∨ x = y ∨ y.Before x := by
  rcases lt_trichotomy x.exponent y.exponent with hexponent | hexponent | hexponent
  · exact .inl (.inl hexponent)
  · rcases lt_trichotomy x.mantissa y.mantissa with hmantissa | hmantissa | hmantissa
    · exact .inl (.inr ⟨hexponent, hmantissa⟩)
    · have hdenser : x.denserBelow = y.denserBelow := by
        rw [Bool.eq_iff_iff, hx.denser_iff, hy.denser_iff, hexponent, hmantissa]
      cases x
      cases y
      cases hexponent
      cases hmantissa
      cases hdenser
      exact .inr (.inl rfl)
    · exact .inr (.inr (.inr ⟨hexponent.symm, hmantissa⟩))
  · exact .inr (.inr (.inl hexponent))

/-- A number that is read as an earlier double is not read as a later one. -/
theorem Reaches.not_of_before {q : ℚ} (hx : x.IsDouble) (hy : y.IsDouble) (hbefore : x.Before y)
    (hreach : x.Reaches q) : ¬y.Reaches q := by
  intro hlater
  obtain ⟨hhigh, heven⟩ := high_le_middle hx hy hbefore
  have hlow := middle_le_low hx hy hbefore
  have hle := hreach.le_high
  have hge := hlater.low_le
  -- the number can only be the common end, which one of the two mantissas leaves out
  rcases Nat.mod_two_eq_zero_or_one x.mantissa with hxeven | hxodd
  · rcases Nat.mod_two_eq_zero_or_one y.mantissa with hyeven | hyodd
    · have hstrict := heven hxeven hyeven
      linarith
    · have hstrict := (hlater.ends hyodd).1
      linarith
  · have hstrict := (hreach.ends hxodd).2
    linarith

/-- A number is read as at most one double. -/
theorem Reaches.unique {q : ℚ} (hx : x.IsDouble) (hy : y.IsDouble) (hreach : x.Reaches q)
    (hother : y.Reaches q) : x = y := by
  rcases before_trichotomy hx hy with hbefore | heq | hbefore
  · exact absurd hother (hreach.not_of_before hx hy hbefore)
  · exact heq
  · exact absurd hreach (hother.not_of_before hy hx hbefore)

/-- No double is nearer to a number than the one that the number is read as. -/
theorem Reaches.abs_sub_le {q : ℚ} (hx : x.IsDouble) (hy : y.IsDouble) (hreach : x.Reaches q) :
    |q - x.value| ≤ |q - y.value| := by
  have hle := hreach.le_high
  have hge := hreach.low_le
  have hlowest := x.low_lt_value
  have hhighest := x.value_lt_high
  rcases before_trichotomy hx hy with hbefore | heq | hbefore
  · have hhigh := (high_le_middle hx hy hbefore).1
    have habove : q ≤ y.value := by linarith
    rw [abs_of_nonpos (sub_nonpos.2 habove), abs_le]
    constructor <;> linarith
  · rw [heq]
  · have hlow := middle_le_low hy hx hbefore
    have hbelow : y.value ≤ q := by linarith
    rw [abs_of_nonneg (sub_nonneg.2 hbelow), abs_le]
    constructor <;> linarith

end Neighbours

end Magnitude

/-! ## Sizes and bits -/

/-- The size of a finite double is that of a double. -/
theorem isDouble_of_magnitude? {x : Float} {size : Magnitude} (hsize : magnitude? x = some size) :
    size.IsDouble := by
  have hbit : implicitBit = 2 ^ 52 := rfl
  have hfraction : x.toBits.toNat % implicitBit < 2 ^ 52 := Nat.mod_lt _ (by decide)
  unfold magnitude? at hsize
  simp only at hsize
  split at hsize
  next => simp at hsize
  next hfinite =>
    split at hsize
    next =>
      cases hsize
      exact ⟨by simp only; omega, le_rfl, fun h => absurd h (lt_irrefl _), by simp⟩
    next hnormal =>
      cases hsize
      refine ⟨by simp only [hbit]; omega, by simp only; omega, fun _ => by simp [hbit], ?_⟩
      simp only [hbit, Bool.and_eq_true, decide_eq_true_eq]
      omega

/-- The exponent field and the fraction of a double, from its size. -/
theorem fields_of_magnitude? {x : Float} {size : Magnitude} (hsize : magnitude? x = some size) :
    x.toBits.toNat % 2 ^ 52 = size.mantissa % 2 ^ 52 ∧
      ((x.toBits.toNat >>> 52 % 2048 : Nat) : Int) =
        if size.mantissa < 2 ^ 52 then 0 else size.exponent + 1075 := by
  have hbit : implicitBit = 2 ^ 52 := rfl
  unfold magnitude? at hsize
  simp only [hbit] at hsize
  split at hsize
  next => simp at hsize
  next =>
    split at hsize
    next hdense =>
      cases hsize
      simp only [hdense]
      omega
    next =>
      cases hsize
      simp only
      omega

/-- A finite double is determined by its sign and its size. -/
theorem eq_of_size {x y : Float} {size : Magnitude} (hx : magnitude? x = some size)
    (hy : magnitude? y = some size) (hsign : isNegative x = isNegative y) : x = y := by
  obtain ⟨hxfraction, hxfield⟩ := fields_of_magnitude? hx
  obtain ⟨hyfraction, hyfield⟩ := fields_of_magnitude? hy
  rw [isNegative_eq, isNegative_eq, decide_eq_decide] at hsign
  rw [← Float.toBits_inj, ← UInt64.toNat_inj]
  have hxbound := x.toBits.toNat_lt
  have hybound := y.toBits.toNat_lt
  simp only [Nat.shiftRight_eq_div_pow] at hxfield hyfield hsign
  omega

end TwinQuery.Decimal
