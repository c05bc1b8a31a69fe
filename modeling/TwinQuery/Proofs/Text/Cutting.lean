import TwinQuery.Session.Event
import TwinQuery.Text.Utf8

/-!
# Cutting texts

A character takes at most four bytes, so from any place in a text one at which it can be cut is at
most three bytes away. An event therefore shows all of a statement that fits whole characters into
its limit, and the search for the place of the cut ends after three steps at the latest:
`Text.abridge_shownBytes`.
-/

namespace TwinQuery.Text

/-- The longest start of a text that takes at most so many bytes. Starts consist of whole
characters. -/
structure LongestStart (limit : Nat) (s start : String) : Prop where
  isStart : ∃ rest, s = start ++ rest
  fits : start.utf8ByteSize ≤ limit
  /-- Every start that fits is part of it. -/
  longest : ∀ other rest, s = other ++ rest → other.utf8ByteSize ≤ limit →
    ∃ more, start = other ++ more

/-- The search for a cut ends after so many steps, each past a place inside a character. -/
structure EndsAfter (steps : Nat) (s : String) (place : Nat) : Prop where
  passes : ∀ step < steps, ¬(String.Pos.Raw.mk (place - step)).IsValid s
  ends : (cutPlace s place).offset.byteIdx + steps = place

/-! ## The place of a cut -/

section Place

variable {s : String} {place : Nat}

/-- A text is not cut behind the given place. -/
theorem cutPlace_le (s : String) (place : Nat) : (cutPlace s place).offset.byteIdx ≤ place := by
  fun_induction cutPlace s place with
  | case1 => exact Nat.zero_le 0
  | case2 place hplace => exact Nat.le_refl (place + 1)
  | case3 place hplace ih => exact Nat.le_succ_of_le ih

/-- The search passes no place at which the text can be cut. -/
theorem le_cutPlace (position : s.Pos) (hposition : position.offset.byteIdx ≤ place) :
    position.offset.byteIdx ≤ (cutPlace s place).offset.byteIdx := by
  fun_induction cutPlace s place with
  | case1 => exact hposition
  | case2 place hplace => exact hposition
  | case3 place hplace ih =>
      -- the text cannot be cut at the place itself, so the position is in front of it
      have hne : position.offset.byteIdx ≠ place + 1 := by
        intro heq
        have hoffset : position.offset = ⟨place + 1⟩ := String.Pos.Raw.ext heq
        exact hplace (hoffset ▸ position.isValid)
      exact ih (Nat.le_of_lt_succ (Nat.lt_of_le_of_ne hposition hne))

/-- A place at which the text can be cut is at most three bytes in front of every place in it. -/
theorem le_cutPlace_add_three (hplace : place ≤ s.utf8ByteSize) :
    place ≤ (cutPlace s place).offset.byteIdx + 3 := by
  by_cases hend : cutPlace s place = s.endPos
  · have hsize : (cutPlace s place).offset.byteIdx = s.utf8ByteSize := by
      rw [hend]
      rfl
    omega
  · -- the character behind the cut does not end before the place, or the cut would be behind it
    have hnext := String.Pos.byteIdx_offset_next (cutPlace s place) hend
    have hpos := ((cutPlace s place).get hend).utf8Size_pos
    have hfour := ((cutPlace s place).get hend).utf8Size_le_four
    have hbehind : place < ((cutPlace s place).next hend).offset.byteIdx := by
      refine Nat.lt_of_not_le fun hle => ?_
      have hcut := le_cutPlace _ hle
      omega
    omega

/-- In a text that reaches up to the place, the search takes three steps at most. -/
theorem exists_endsAfter (hplace : place ≤ s.utf8ByteSize) :
    ∃ steps ≤ 3, EndsAfter steps s place := by
  have hle := cutPlace_le s place
  have hnear := le_cutPlace_add_three hplace
  refine ⟨place - (cutPlace s place).offset.byteIdx, by omega, fun step hstep hvalid => ?_,
    by omega⟩
  have hcut := le_cutPlace ⟨⟨place - step⟩, hvalid⟩ (Nat.sub_le place step)
  simp only at hcut
  omega

theorem utf8ByteSize_cut (s : String) (place : Nat) :
    (s.sliceTo (cutPlace s place)).copy.utf8ByteSize = (cutPlace s place).offset.byteIdx := by
  rw [String.Slice.utf8ByteSize_copy, String.utf8ByteSize_sliceTo]

/-- What stands before the cut is the longest start within the place that the search began at. -/
theorem longestStart_cutPlace (s : String) (place : Nat) :
    LongestStart place s (s.sliceTo (cutPlace s place)).copy where
  isStart := ⟨_, (cutPlace s place).splits.eq_append⟩
  fits := by
    rw [utf8ByteSize_cut]
    exact cutPlace_le s place
  longest other rest hother hfits := by
    have hsplits := String.Pos.splits_ofEqAppend hother
    have hoffset : (String.Pos.ofEqAppend hother).offset.byteIdx = other.utf8ByteSize := by
      rw [hsplits.offset_eq_rawEndPos]
      rfl
    have hle := le_cutPlace _ (Nat.le_trans (Nat.le_of_eq hoffset) hfits)
    obtain ⟨more, hmore, -⟩ := (hsplits.le_iff_exists_eq_append (cutPlace s place).splits).1 hle
    exact ⟨more, hmore⟩

end Place

/-- A statement that takes at most two hundred bytes is shown as it is. Of a longer one its longest
start within them is shown, followed by three dots: one hundred and ninety-seven bytes at least,
which end where the search does after three steps at the most. -/
theorem abridge_shownBytes (s : String) :
    (s.utf8ByteSize ≤ 200 → abridge Event.shownBytes s = s) ∧
      (200 < s.utf8ByteSize → ∃ start, abridge Event.shownBytes s = start ++ "..." ∧
        LongestStart 200 s start ∧ 197 ≤ start.utf8ByteSize ∧ start.utf8ByteSize ≤ 200 ∧
        ∃ steps ≤ 3, EndsAfter steps s 200 ∧ start.utf8ByteSize + steps = 200) := by
  refine ⟨fun hshort => if_pos hshort, fun hlong => ?_⟩
  obtain ⟨steps, hsteps, hends⟩ := exists_endsAfter (Nat.le_of_lt hlong)
  have hsize : (s.sliceTo (cutPlace s 200)).copy.utf8ByteSize + steps = 200 := by
    rw [utf8ByteSize_cut]
    exact hends.ends
  refine ⟨(s.sliceTo (cutPlace s 200)).copy, if_neg (Nat.not_le_of_lt hlong),
    longestStart_cutPlace s 200, ?_, ?_, steps, hsteps, hends, hsize⟩
  · omega
  · omega

/-- Two characters of four bytes and half of a third fit into ten bytes. -/
example : abridge 10 "𝒫𝒫𝒫" = "𝒫𝒫..." := by decide

end TwinQuery.Text
