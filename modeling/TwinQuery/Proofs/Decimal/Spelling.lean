import Mathlib
import TwinQuery.Decimal.Layout

/-!
# Spellings of decimal numbers

Without exponents a decimal number is spelled by its digits and at most one point. `Spells`
relates such a text to the number; it holds of the numeral of every natural number and of the
text of every finite double, whose number is then the shortest decimal of the double.
-/

namespace TwinQuery.Decimal

/-- A text spells `significand / 10 ^ places`: it consists of the digits of the significand,
leading zeros allowed, with a point before the last `places` of them if there are any. -/
inductive Spells : List Char → Nat → Nat → Prop where
  | whole {digits : List Char} (hdigits : ∀ c ∈ digits, c.isDigit = true) (hne : digits ≠ []) :
      Spells digits (Nat.ofDigitChars 10 digits 0) 0
  | fraction {whole fraction : List Char} (hwhole : ∀ c ∈ whole, c.isDigit = true)
      (hne : whole ≠ []) (hfraction : ∀ c ∈ fraction, c.isDigit = true) (hmore : fraction ≠ []) :
      Spells (whole ++ '.' :: fraction) (Nat.ofDigitChars 10 (whole ++ fraction) 0)
        fraction.length

/-! ## Reading runs of digits -/

theorem continueNat?_digits {digits : List Char} (hdigits : ∀ c ∈ digits, c.isDigit = true)
    (acc : Nat) : continueNat? acc digits = some (Nat.ofDigitChars 10 digits acc) := by
  induction digits generalizing acc with
  | nil => simp [continueNat?]
  | cons c rest ih =>
      have hc : c.isDigit = true := hdigits c List.mem_cons_self
      have hrest : ∀ d ∈ rest, d.isDigit = true := fun d hd => hdigits d (List.mem_cons_of_mem _ hd)
      rw [continueNat?, digit?, if_pos hc, Option.bind_some, ih hrest, Nat.ofDigitChars_cons]

theorem nat?_digits {digits : List Char} (hdigits : ∀ c ∈ digits, c.isDigit = true)
    (hne : digits ≠ []) : nat? digits = some (Nat.ofDigitChars 10 digits 0) := by
  cases digits with
  | nil => exact absurd rfl hne
  | cons c rest => exact continueNat?_digits hdigits 0

/-- Only runs of digits are read. -/
theorem isDigit_of_continueNat? {acc n : Nat} {cs : List Char} (h : continueNat? acc cs = some n) :
    ∀ c ∈ cs, c.isDigit = true := by
  induction cs generalizing acc with
  | nil => simp
  | cons c rest ih =>
      rw [continueNat?] at h
      obtain ⟨digit, hdigit, hrest⟩ := Option.bind_eq_some_iff.1 h
      have hc : c.isDigit = true := by
        refine Decidable.byContradiction fun hnot => ?_
        rw [digit?, if_neg hnot] at hdigit
        exact Option.some_ne_none digit hdigit.symm
      exact List.forall_mem_cons.2 ⟨hc, ih hrest⟩

/-- What is read as a number is what spells it without a point. -/
theorem nat?_eq_some_iff {cs : List Char} {n : Nat} : nat? cs = some n ↔ Spells cs n 0 := by
  constructor
  · intro h
    cases cs with
    | nil => simp [nat?] at h
    | cons c rest =>
        have hdigits := isDigit_of_continueNat? h
        rw [nat?_digits hdigits (by simp)] at h
        obtain rfl := Option.some.inj h
        exact .whole hdigits (by simp)
  · intro h
    generalize hplaces : 0 = places at h
    cases h with
    | whole hdigits hne => exact nat?_digits hdigits hne
    | fraction hwhole hne hfraction hmore =>
        exact absurd (List.length_eq_zero_iff.1 hplaces.symm) hmore

theorem Spells.isDigit {digits : List Char} {n : Nat} (h : Spells digits n 0) :
    ∀ c ∈ digits, c.isDigit = true := by
  have hread := nat?_eq_some_iff.2 h
  cases digits with
  | nil => simp
  | cons c rest => exact isDigit_of_continueNat? hread

/-- A spelling begins with a digit. -/
theorem Spells.exists_digit {digits : List Char} {significand places : Nat}
    (h : Spells digits significand places) :
    ∃ c rest, digits = c :: rest ∧ c.isDigit = true := by
  cases h with
  | whole hdigits hne =>
      obtain ⟨c, rest, rfl⟩ := List.exists_cons_of_ne_nil hne
      exact ⟨c, rest, rfl, hdigits c List.mem_cons_self⟩
  | @fraction whole fraction hwhole hne =>
      obtain ⟨c, rest, rfl⟩ := List.exists_cons_of_ne_nil hne
      exact ⟨c, rest ++ '.' :: fraction, rfl, hwhole c List.mem_cons_self⟩

/-- A text spells one number, with one number of decimals. -/
theorem Spells.unique {digits : List Char} {n m places others : Nat} (h : Spells digits n places)
    (hother : Spells digits m others) : n = m ∧ places = others := by
  have hpoint {run : List Char} (hdigits : ∀ c ∈ run, c.isDigit = true) : '.' ∉ run :=
    fun hmem => absurd (hdigits '.' hmem) (by decide)
  generalize hsame : digits = same at hother
  cases h with
  | whole hdigits hne =>
      cases hother with
      | whole => exact ⟨by rw [hsame], rfl⟩
      | fraction => exact absurd (hsame ▸ List.mem_append_cons_self) (hpoint hdigits)
  | @fraction whole fraction hwhole hne hfraction hmore =>
      cases hother with
      | whole hdigits => exact absurd (hsame ▸ List.mem_append_cons_self) (hpoint hdigits)
      | fraction =>
          obtain ⟨rfl, -, rfl⟩ :=
            (List.append_cons_inj_of_notMem (hpoint hwhole) (hpoint hfraction)).1 hsame
          exact ⟨rfl, rfl⟩

/-- A minus sign in front of a spelling can be told from the spelling. -/
theorem Spells.eq_of_signed_eq {digits others : List Char} {n m places decimals : Nat}
    {negative opposite : Bool} (h : Spells digits n places) (hother : Spells others m decimals)
    (heq : (if negative then '-' :: digits else digits) =
      if opposite then '-' :: others else others) :
    negative = opposite ∧ digits = others := by
  obtain ⟨c, rest, rfl, hc⟩ := h.exists_digit
  obtain ⟨d, later, rfl, hd⟩ := hother.exists_digit
  have hsign : ∀ e : Char, e.isDigit = true → '-' ≠ e := by
    rintro e he rfl
    exact absurd he (by decide)
  cases negative <;> cases opposite
  · exact ⟨rfl, heq⟩
  · exact absurd (List.cons.inj heq).1.symm (hsign c hc)
  · exact absurd (List.cons.inj heq).1 (hsign d hd)
  · exact ⟨rfl, (List.cons.inj heq).2⟩

/-- The numbers of 64 bits are those below the bound. -/
theorem bounded_eq_some_iff {k : Nat} {n : UInt64} :
    (if k < UInt64.size then some k.toUInt64 else none) = some n ↔ k = n.toNat := by
  constructor
  · intro h
    split at h
    next hk =>
      obtain rfl := Option.some.inj h
      exact (UInt64.toNat_ofNat_of_lt' hk).symm
    next => simp at h
  · rintro rfl
    rw [if_pos n.toNat_lt]
    exact congrArg some UInt64.ofNat_toNat

/-- What is read as a number of 64 bits spells it without a point, after a plus sign or not. -/
theorem unsigned64?_eq_some_iff {cs : List Char} {n : UInt64} :
    unsigned64? cs = some n ↔
      Spells cs n.toNat 0 ∨ ∃ digits, cs = '+' :: digits ∧ Spells digits n.toNat 0 := by
  have hread (digits : List Char) :
      ((nat? digits).bind fun k => if k < UInt64.size then some k.toUInt64 else none) = some n ↔
        Spells digits n.toNat 0 := by
    rw [Option.bind_eq_some_iff, ← nat?_eq_some_iff]
    simp only [bounded_eq_some_iff]
    simp
  unfold unsigned64?
  split
  next digits =>
    -- a spelling does not begin with a plus sign
    have hplus : ¬Spells ('+' :: digits) n.toNat 0 := by
      rw [← nat?_eq_some_iff]
      intro h
      exact absurd (isDigit_of_continueNat? h '+' List.mem_cons_self) (by decide)
    simp only [hread, hplus, false_or]
    simp
  next hcs =>
    rw [hread, or_iff_left]
    rintro ⟨digits, rfl, -⟩
    exact hcs digits rfl

theorem isDigit_of_mem_repr {n : Nat} {c : Char} (hc : c ∈ n.repr.toList) : c.isDigit = true := by
  rw [Nat.toList_repr] at hc
  exact Nat.isDigit_of_mem_toDigits (by decide) (by decide) hc

theorem ofDigitChars_repr (n : Nat) : Nat.ofDigitChars 10 n.repr.toList 0 = n := by
  rw [Nat.toList_repr, Nat.ofDigitChars_ten_toDigits]

theorem toList_repr_ne_nil (n : Nat) : n.repr.toList ≠ [] := by
  rw [Nat.toList_repr]
  exact Nat.toDigits_ne_nil

/-- The numeral of a number spells the number. -/
theorem spells_repr (n : Nat) : Spells n.repr.toList n 0 := by
  have hspells := Spells.whole (fun _ hc => isDigit_of_mem_repr hc) (toList_repr_ne_nil n)
  rwa [ofDigitChars_repr] at hspells

/-! ## Digits at their place value -/

theorem isDigit_of_mem_zeros {n : Int} {c : Char} (hc : c ∈ zeros n) : c.isDigit = true := by
  rw [List.eq_of_mem_replicate hc]
  rfl

theorem ofDigitChars_zeros_append (n : Int) (digits : List Char) :
    Nat.ofDigitChars 10 (zeros n ++ digits) 0 = Nat.ofDigitChars 10 digits 0 := by
  rw [Nat.ofDigitChars_append, zeros, Nat.ofDigitChars_replicate_zero, Nat.mul_zero]

/-- Zeros behind the digits multiply by powers of ten, as zeros in front change nothing. -/
theorem ofDigitChars_append_zeros (n : Int) (digits : List Char) :
    Nat.ofDigitChars 10 (digits ++ zeros n) 0 = Nat.ofDigitChars 10 digits 0 * 10 ^ n.toNat := by
  rw [Nat.ofDigitChars_append, zeros, Nat.ofDigitChars_replicate_zero, Nat.mul_comm]

/-- Digits at their place value spell their number moved by the place of the point. -/
theorem spells_positional {digits : List Char} (hdigits : ∀ c ∈ digits, c.isDigit = true)
    (hne : digits ≠ []) (exponent : Int) :
    Spells (positional false digits (exponent + digits.length))
      (Nat.ofDigitChars 10 digits 0 * 10 ^ exponent.toNat) (-exponent).toNat := by
  have hlength : 0 < digits.length := List.length_pos_iff.2 hne
  unfold positional
  split
  next hpoint =>
    -- every digit stands behind the point, after zeros that fill the places between
    have hfraction : ∀ c ∈ zeros (-(exponent + digits.length)) ++ digits, c.isDigit = true := by
      intro c hc
      rcases List.mem_append.1 hc with hzero | hdigit
      · exact isDigit_of_mem_zeros hzero
      · exact hdigits c hdigit
    have hspells := @Spells.fraction ['0'] _ (by simp) (by simp) hfraction (by simp [hne])
    have hvalue : Nat.ofDigitChars 10 (['0'] ++ (zeros (-(exponent + digits.length)) ++ digits)) 0 =
        Nat.ofDigitChars 10 digits 0 * 10 ^ exponent.toNat := by
      have hexponent : exponent.toNat = 0 := by omega
      rw [Nat.ofDigitChars_append, Nat.ofDigitChars_cons, Nat.ofDigitChars_nil]
      simp [ofDigitChars_zeros_append, hexponent]
    have hplaces : (zeros (-(exponent + digits.length)) ++ digits).length = (-exponent).toNat := by
      rw [List.length_append, zeros, List.length_replicate]
      omega
    rw [hvalue, hplaces] at hspells
    simpa using hspells
  next hpoint =>
    split
    next hwhole =>
      -- every digit stands before the point, and zeros follow up to it
      have hall : ∀ c ∈ digits ++ zeros (exponent + digits.length - digits.length),
          c.isDigit = true := by
        intro c hc
        rcases List.mem_append.1 hc with hdigit | hzero
        · exact hdigits c hdigit
        · exact isDigit_of_mem_zeros hzero
      have hspells := Spells.whole hall (by simp [hne])
      have hplaces : (-exponent).toNat = 0 := by omega
      rw [ofDigitChars_append_zeros, Int.add_sub_cancel] at hspells
      simpa [hplaces] using hspells
    next hmiddle =>
      -- the point stands between two digits
      have htake : (digits.take (exponent + digits.length).toNat) ≠ [] := by
        intro hnil
        rcases List.take_eq_nil_iff.1 hnil with hzero | hnone
        · omega
        · exact hne hnone
      have hdrop : (digits.drop (exponent + digits.length).toNat) ≠ [] := by
        rw [Ne, List.drop_eq_nil_iff]
        omega
      have hspells := Spells.fraction (fun c hc => hdigits c (List.mem_of_mem_take hc)) htake
        (fun c hc => hdigits c (List.mem_of_mem_drop hc)) hdrop
      have hexponent : exponent.toNat = 0 := by omega
      have hplaces : (digits.drop (exponent + digits.length).toNat).length = (-exponent).toNat := by
        rw [List.length_drop]
        omega
      rw [List.take_append_drop, hplaces] at hspells
      simpa [hexponent] using hspells

/-! ## The text of a double -/

section Finite

open Float.Model Float.Model.UnpackedFloat

theorem toNat_unpackExponent (bits : BitVec 64) :
    (@unpackExponent Format.binary64 bits).toNat = bits.toNat >>> 52 % 2048 := by
  simp [unpackExponent, BitVec.extractLsb_toNat]

/-- A finite double has a size. -/
theorem magnitude?_ne_none {x : Float} (hfinite : x.isFinite = true) : magnitude? x ≠ none := by
  intro hnone
  -- without a size the exponent field is full, as in infinities and in what is no number
  have hfield : x.toBits.toNat >>> 52 % 2048 = 2047 := by
    unfold magnitude? at hnone
    simp only at hnone
    split at hnone
    next hfield => exact hfield
    next => split at hnone <;> simp at hnone
  have hexponent : @unpackExponent Format.binary64 x.toBits.toBitVec = -1#_ := by
    apply BitVec.eq_of_toNat_eq
    rw [toNat_unpackExponent]
    simpa using hfield
  have hinfinite :
      (UnpackedFloat.unpack Format.binary64 x.toBits.toBitVec).isFinite = false := by
    unfold UnpackedFloat.unpack
    rw [hexponent]
    simp only
    rw [if_pos trivial]
    split <;> rfl
  have hunpack : (UnpackedFloat.unpack Format.binary64 x.toBits.toBitVec).isFinite = true := hfinite
  rw [hinfinite] at hunpack
  exact Bool.noConfusion hunpack

end Finite

/-- The size that the plain text of a double shows: zero, or the shortest decimal that is read
as the double. -/
def shownSize (x : Float) : Scaled :=
  match magnitude? x with
  | none => ⟨0, 0⟩
  | some size => if size.mantissa = 0 then ⟨0, 0⟩ else shortest .away size

/-- The numerator of a decimal over a power of ten with no negative exponent. -/
def Scaled.numerator (x : Scaled) : Nat :=
  x.significand * 10 ^ x.exponent.toNat

def Scaled.places (x : Scaled) : Nat :=
  (-x.exponent).toNat

/-- The plain text of a size spells its shortest decimal. -/
theorem spells_magnitude (size : Magnitude) :
    Spells (Layout.plain.magnitude size) (shortest .away size).numerator
      (shortest .away size).places := by
  have hspells := spells_positional (fun _ hc => isDigit_of_mem_repr hc)
    (toList_repr_ne_nil (shortest .away size).significand) (shortest .away size).exponent
  rw [ofDigitChars_repr] at hspells
  unfold Layout.magnitude
  simp only [Layout.plain, Option.all_none, Bool.and_self, if_true]
  rw [Int.sub_add_cancel]
  exact hspells

/-- The plain text of a finite double is the spelling of its size, after a minus sign when the
sign bit is set. -/
theorem exists_spells_of_isFinite {x : Float} (hfinite : x.isFinite = true) :
    ∃ digits, (Layout.plain.text x).toList = (if isNegative x then '-' :: digits else digits) ∧
      Spells digits (shownSize x).numerator (shownSize x).places := by
  cases hsize : magnitude? x with
  | none => exact absurd hsize (magnitude?_ne_none hfinite)
  | some size =>
      unfold Layout.text shownSize
      rw [hsize]
      simp only [String.toList_ofList]
      refine ⟨_, rfl, ?_⟩
      by_cases hzero : size.mantissa = 0
      · rw [if_pos hzero, if_pos hzero]
        exact spells_repr 0
      · rw [if_neg hzero, if_neg hzero]
        exact spells_magnitude size

end TwinQuery.Decimal
