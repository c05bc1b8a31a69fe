import TwinQuery.Proofs.Decimal.Spelling

/-!
# The exact value of a double

A finite double is a rational number. Comparing a double with zero compares this number, and making
a double an unsigned number of 64 bits drops the fraction of it and clamps the rest:
`zero_le_iff_exact` and `toNat_toUInt64`.
-/

namespace TwinQuery.Decimal

open Float.Model Float.Model.UnpackedFloat

/-- The rational number that a double is. Infinities and what is no number are none. -/
def rational? (x : Float) : Option ℚ :=
  (magnitude? x).map fun size =>
    (if isNegative x then -1 else 1) * (size.mantissa * 2 ^ size.exponent)

/-- A finite double is a rational number. -/
theorem exists_rational {x : Float} (hfinite : x.isFinite = true) : ∃ q, rational? x = some q := by
  obtain ⟨size, hsize⟩ := Option.ne_none_iff_exists'.1 (magnitude?_ne_none hfinite)
  rw [rational?, hsize]
  exact ⟨_, rfl⟩

/-! ## The parts of a double -/

def sign (x : Float) : Sign :=
  if isNegative x then .negative else .positive

def unpacked (x : Float) : UnpackedFloat :=
  UnpackedFloat.unpack Format.binary64 x.toBits.toBitVec

theorem toNat_unpackMantissa (bits : BitVec 64) :
    (@unpackMantissa Format.binary64 bits).toNat = bits.toNat % implicitBit := by
  simp [unpackMantissa, BitVec.extractLsb_toNat, implicitBit]

theorem toNat_unpackSign (bits : BitVec 64) :
    (@unpackSign Format.binary64 bits).toNat = bits.toNat >>> 63 % 2 := by
  simp [unpackSign, BitVec.extractLsb_toNat]

theorem isNegative_eq (x : Float) : isNegative x = decide (x.toBits.toNat >>> 63 % 2 = 1) := by
  rw [isNegative, Nat.testBit_eq_decide_div_mod_eq, Nat.shiftRight_eq_div_pow]

theorem ofBitVec_unpackSign (x : Float) :
    Sign.ofBitVec (@unpackSign Format.binary64 x.toBits.toBitVec) = sign x := by
  have hclear : @unpackSign Format.binary64 x.toBits.toBitVec = 0#1 ↔
      ¬x.toBits.toNat >>> 63 % 2 = 1 := by
    rw [← BitVec.toNat_inj, toNat_unpackSign]
    simp
  unfold sign Sign.ofBitVec
  rw [isNegative_eq]
  by_cases hset : x.toBits.toNat >>> 63 % 2 = 1
  · rw [if_neg (mt hclear.1 (not_not_intro hset)), if_pos (decide_eq_true hset)]
  · rw [if_pos (hclear.2 hset), decide_eq_false hset]
    rfl

theorem toNat_one_append (fraction : BitVec 52) :
    (1#1 ++ fraction).toNat = implicitBit + fraction.toNat := by
  rw [BitVec.toNat_append, ← Nat.shiftLeft_add_eq_or_of_lt fraction.isLt]
  simp [implicitBit]

/-- The parts of a finite double are its sign and its size. -/
theorem unpacked_of_size {x : Float} {size : Magnitude} (hsize : magnitude? x = some size) :
    unpacked x =
      if hzero : size.mantissa = 0 then .zero (sign x)
      else .finite (sign x) size.mantissa size.exponent (Nat.pos_of_ne_zero hzero) := by
  have hexponent : (@unpackExponent Format.binary64 x.toBits.toBitVec).toNat =
      x.toBits.toNat >>> 52 % 2048 := toNat_unpackExponent _
  have hmantissa : (@unpackMantissa Format.binary64 x.toBits.toBitVec).toNat =
      x.toBits.toNat % implicitBit := toNat_unpackMantissa _
  have hlast : @unpackExponent Format.binary64 x.toBits.toBitVec = -1#_ ↔
      x.toBits.toNat >>> 52 % 2048 = 2047 := by
    rw [← BitVec.toNat_inj, hexponent]
    simp
  have hfirst : @unpackExponent Format.binary64 x.toBits.toBitVec = 0#_ ↔
      x.toBits.toNat >>> 52 % 2048 = 0 := by
    rw [← BitVec.toNat_inj, hexponent]
    simp
  have hnone : @unpackMantissa Format.binary64 x.toBits.toBitVec = 0#_ ↔
      x.toBits.toNat % implicitBit = 0 := by
    rw [← BitVec.toNat_inj, hmantissa]
    simp
  unfold magnitude? at hsize
  simp only at hsize
  unfold unpacked UnpackedFloat.unpack
  simp only [ofBitVec_unpackSign, hlast, hfirst, hnone, hexponent, hmantissa, toNat_one_append]
  split at hsize
  next => simp at hsize
  next hfield =>
    rw [if_neg hfield]
    split at hsize
    next hdense =>
      cases hsize
      rw [if_pos hdense]
      simp only [hdense]
      rfl
    next hnormal =>
      cases hsize
      have hfull : implicitBit + x.toBits.toNat % implicitBit ≠ 0 := by
        unfold implicitBit
        omega
      rw [if_neg hnormal, dif_neg hfull]
      rfl

/-- Parts and the number that they make up. -/
inductive Valued : UnpackedFloat → ℚ → Prop where
  | zero (sign : Sign) : Valued (.zero sign) 0
  | positive (mantissa : Nat) (exponent : Int) (hmantissa : 0 < mantissa) :
      Valued (.finite .positive mantissa exponent hmantissa) (mantissa * 2 ^ exponent)
  | negative (mantissa : Nat) (exponent : Int) (hmantissa : 0 < mantissa) :
      Valued (.finite .negative mantissa exponent hmantissa) (-(mantissa * 2 ^ exponent))

/-- The parts of a finite double make up its exact value. -/
theorem valued_of_exact {x : Float} {q : ℚ} (hexact : rational? x = some q) :
    Valued (unpacked x) q := by
  obtain ⟨size, hsize, rfl⟩ := Option.map_eq_some_iff.1 hexact
  rw [unpacked_of_size hsize, sign]
  by_cases hzero : size.mantissa = 0
  · have hvalue : (if isNegative x then (-1 : ℚ) else 1) * (size.mantissa * 2 ^ size.exponent) =
        0 := by
      simp [hzero]
    rw [dif_pos hzero, hvalue]
    exact .zero _
  · rw [dif_neg hzero]
    by_cases hnegative : isNegative x = true
    · simpa [hnegative] using Valued.negative size.mantissa size.exponent
        (Nat.pos_of_ne_zero hzero)
    · simpa [hnegative] using Valued.positive size.mantissa size.exponent
        (Nat.pos_of_ne_zero hzero)

/-! ## Comparing with zero -/

theorem zero_le_iff (x : Float) :
    0.0 ≤ x ↔ UnpackedFloat.le (.zero .positive) (unpacked x) = true := by
  have hzero : (0.0 : Float).toModel.unpack = .zero .positive := rfl
  have hmodel : (0.0 ≤ x) = (decide ((0.0 : Float).toModel ≤ x.toModel) = true) := rfl
  rw [hmodel, decide_eq_true_iff, ← hzero]
  rfl

/-- On the parts, being no less than zero is decided by the sign alone. -/
theorem zero_le_of_valued {parts : UnpackedFloat} {q : ℚ} (hvalued : Valued parts q) :
    UnpackedFloat.le (.zero .positive) parts = true ↔ 0 ≤ q := by
  have hpower (exponent : Int) : (0 : ℚ) < 2 ^ exponent := zpow_pos (by norm_num) exponent
  cases hvalued with
  | zero sign => simp [UnpackedFloat.le, UnpackedFloat.compare]
  | positive mantissa exponent hmantissa =>
      have hvalue := mul_pos (Nat.cast_pos.2 hmantissa) (hpower exponent)
      simp [UnpackedFloat.le, UnpackedFloat.compare, hvalue.le]
  | negative mantissa exponent hmantissa =>
      have hvalue := mul_pos (Nat.cast_pos.2 hmantissa) (hpower exponent)
      simp [UnpackedFloat.le, UnpackedFloat.compare, hvalue]

/-- A double is compared with zero as its exact value is. -/
theorem zero_le_iff_exact {x : Float} {q : ℚ} (hexact : rational? x = some q) :
    0.0 ≤ x ↔ 0 ≤ q :=
  (zero_le_iff x).trans (zero_le_of_valued (valued_of_exact hexact))

/-! ## Cutting to a whole number -/

/-- Shifting a mantissa drops its last bits, whatever is recorded of them for rounding. -/
theorem mantissa_shiftRight (extended : ExtendedMantissa) (places : Nat) :
    (extended >>> places).mantissa = extended.mantissa / 2 ^ places := by
  induction places with
  | zero => exact (Nat.div_one _).symm
  | succ places ih =>
      have hstep : (extended >>> (places + 1)).mantissa = (extended >>> places).mantissa / 2 := rfl
      rw [hstep, ih, Nat.div_div_eq_div_mul, Nat.pow_succ]

/-- A power as a quotient of two with no negative exponent. -/
theorem zpow_eq_div {base : ℚ} (hbase : base ≠ 0) (exponent : Int) :
    base ^ exponent = base ^ exponent.toNat / base ^ (-exponent).toNat := by
  rw [← zpow_natCast, ← zpow_natCast, ← zpow_sub₀ hbase]
  congr 1
  omega

theorem floor_size (mantissa : Nat) (exponent : Int) :
    ⌊(mantissa * 2 ^ exponent : ℚ)⌋₊ = mantissa * 2 ^ exponent.toNat / 2 ^ (-exponent).toNat := by
  have hpower := zpow_eq_div (by norm_num : (2 : ℚ) ≠ 0) exponent
  have hquotient : (mantissa * 2 ^ exponent : ℚ) =
      ((mantissa * 2 ^ exponent.toNat : ℕ) : ℚ) / ((2 ^ (-exponent).toNat : ℕ) : ℚ) := by
    rw [hpower]
    push_cast
    exact (mul_div_assoc _ _ _).symm
  rw [hquotient, Nat.floor_div_eq_div]

/-- Cutting drops the fraction of the size. -/
theorem roundToInt_eq (sign : Sign) (mantissa : Nat) (exponent : Int) :
    roundToInt sign mantissa exponent = sign.apply (⌊(mantissa * 2 ^ exponent : ℚ)⌋₊ : Int) := by
  have hplaces : (0 - (exponent - (exponent - 0).toNat)).toNat = (-exponent).toNat := by omega
  rw [floor_size]
  unfold roundToInt decreaseExponent shiftToExponent
  simp only [mantissa_shiftRight, hplaces]
  rw [ExtendedMantissa.ofMantissaAndAccuracy, Nat.shiftLeft_eq, Int.sub_zero]

/-- The whole number that the parts are cut to is the floor of their value, zero where that is
negative. -/
theorem toNat_toInt {parts : UnpackedFloat} {q : ℚ} (hvalued : Valued parts q)
    (below above : Int) : (parts.toInt below above).toNat = ⌊q⌋₊ := by
  cases hvalued with
  | zero sign => exact Nat.floor_zero.symm
  | positive mantissa exponent hmantissa =>
      rw [UnpackedFloat.toInt, roundToInt_eq]
      rfl
  | negative mantissa exponent hmantissa =>
      have hvalue : 0 ≤ (mantissa * 2 ^ exponent : ℚ) := by positivity
      rw [UnpackedFloat.toInt, roundToInt_eq, Nat.floor_of_nonpos (neg_nonpos.2 hvalue), Sign.apply]
      omega

theorem toNat_ofNatClamp (n : Nat) : (UInt64.ofNatClamp n).toNat = min n (2 ^ 64 - 1) := by
  by_cases hn : n < UInt64.size
  · rw [UInt64.toNat_ofNatClamp_of_lt hn]
    exact (Nat.min_eq_left (Nat.le_sub_one_of_lt hn)).symm
  · have hle := Nat.le_of_not_lt hn
    rw [UInt64.toNat_ofNatClamp_of_le hle]
    exact (Nat.min_eq_right (Nat.le_trans (Nat.sub_le _ _) hle)).symm

/-- A double as an unsigned number of 64 bits is what is left of its exact value without the
fraction, zero where it is negative and the largest such number where it is too large. -/
theorem toNat_toUInt64 {x : Float} {q : ℚ} (hexact : rational? x = some q) :
    x.toUInt64.toNat = min ⌊q⌋₊ (2 ^ 64 - 1) := by
  have hclamp : x.toUInt64 =
      UInt64.ofNatClamp ((unpacked x).toInt 0 (UInt64.size - 1)).toNat := rfl
  rw [hclamp, toNat_ofNatClamp, toNat_toInt (valued_of_exact hexact)]

end TwinQuery.Decimal
