import Mathlib
import TwinQuery.Text.Blank
import TwinQuery.Text.Case

/-!
# The words of a text

Blanks around a text are no part of it (`trimChars_padded`) and no part of its words
(`words_trimChars`). Two texts are respelled when they differ in the case of ASCII letters and in
the blanks between words; then their words are the same in small letters (`Respelled.words`), and so
in capital ones (`upper_lowered`).
-/

namespace TwinQuery.Text

def Blanks (run : List Char) : Prop :=
  ∀ c ∈ run, isBlank c = true

theorem Blanks.reverse {run : List Char} (hrun : Blanks run) : Blanks run.reverse :=
  fun c hc => hrun c (List.mem_reverse.1 hc)

/-! ## Blanks around a text -/

/-- Blanks in front of a text are dropped with its own. -/
theorem dropBlanks_append {run : List Char} (hrun : Blanks run) (cs : List Char) :
    dropBlanks (run ++ cs) = dropBlanks cs :=
  List.dropWhile_append_of_pos hrun

theorem dropBlanks_cons_of_blank {c : Char} (hc : isBlank c = true) (cs : List Char) :
    dropBlanks (c :: cs) = dropBlanks cs :=
  List.dropWhile_cons_of_pos hc

theorem dropBlanks_cons_of_not_blank {c : Char} (hc : ¬isBlank c = true) (cs : List Char) :
    dropBlanks (c :: cs) = c :: cs :=
  List.dropWhile_cons_of_neg hc

theorem dropBlanks_of_blanks {run : List Char} (hrun : Blanks run) : dropBlanks run = [] := by
  have hdrop := dropBlanks_append hrun []
  rwa [List.append_nil] at hdrop

/-- Blanks behind a text do not matter to what is left of it. -/
theorem trimChars_append {back : List Char} (hback : Blanks back) (cs : List Char) :
    trimChars (cs ++ back) = trimChars cs := by
  unfold trimChars
  apply congrArg List.reverse
  induction cs with
  | nil =>
      rw [List.nil_append, dropBlanks_of_blanks hback]
      rfl
  | cons c rest ih =>
      by_cases hc : isBlank c = true
      · rw [List.cons_append, dropBlanks_cons_of_blank hc, dropBlanks_cons_of_blank hc, ih]
      · -- the text starts here, so the blanks behind it come first from the other end
        rw [List.cons_append, dropBlanks_cons_of_not_blank hc, dropBlanks_cons_of_not_blank hc,
          ← List.cons_append, List.reverse_append, dropBlanks_append hback.reverse]

/-- Blanks around a text are no part of what is left without them. -/
theorem trimChars_padded {front back : List Char} (hfront : Blanks front) (hback : Blanks back)
    (cs : List Char) : trimChars (front ++ cs ++ back) = trimChars cs := by
  rw [trimChars_append hback, trimChars, dropBlanks_append hfront]
  rfl

theorem dropBlanks_of_free {cs : List Char} (hfree : ∀ c ∈ cs, isBlank c = false) :
    dropBlanks cs = cs := by
  cases cs with
  | nil => rfl
  | cons c rest =>
      have hc : ¬isBlank c = true := by
        rw [hfree c List.mem_cons_self]
        exact Bool.false_ne_true
      exact dropBlanks_cons_of_not_blank hc rest

/-- Nothing is taken from a text without blanks. -/
theorem trimChars_of_free {cs : List Char} (hfree : ∀ c ∈ cs, isBlank c = false) :
    trimChars cs = cs := by
  have hreverse : ∀ c ∈ cs.reverse, isBlank c = false := fun c hc => hfree c (List.mem_reverse.1 hc)
  rw [trimChars, dropBlanks_of_free hfree, dropBlanks_of_free hreverse, List.reverse_reverse]

theorem isBlank_of_isDigit {c : Char} (hc : c.isDigit = true) : isBlank c = false := by
  simp only [Char.isDigit, UInt32.le_iff_toNat_le, Bool.and_eq_true, decide_eq_true_eq] at hc
  have hdigit : 48 ≤ c.toNat ∧ c.toNat ≤ 57 := hc
  rw [Bool.eq_false_iff]
  intro hblank
  simp only [isBlank, Bool.or_eq_true, Bool.and_eq_true, decide_eq_true_eq, beq_iff_eq] at hblank
  omega

/-! ## Words -/

theorem splitWords_cons_of_blank {c : Char} (hc : isBlank c = true) (cs : List Char) :
    splitWords (c :: cs) = ([], words cs) := by
  rw [splitWords]
  simp only [hc, if_true]
  rfl

theorem splitWords_cons_of_not_blank {c : Char} (hc : ¬isBlank c = true) (cs : List Char) :
    splitWords (c :: cs) = (c :: (splitWords cs).1, (splitWords cs).2) := by
  rw [splitWords]
  simp only [hc]
  rfl

theorem words_eq_of_splitWords_eq {cs ds : List Char} (heq : splitWords cs = splitWords ds) :
    words cs = words ds := by
  unfold words
  rw [heq]

theorem words_cons_of_blank {c : Char} (hc : isBlank c = true) (cs : List Char) :
    words (c :: cs) = words cs := by
  rw [words, splitWords_cons_of_blank hc]
  rfl

/-- Blanks in front of a text do not change its words. -/
theorem words_append {run : List Char} (hrun : Blanks run) (cs : List Char) :
    words (run ++ cs) = words cs := by
  induction run with
  | nil => rfl
  | cons c rest ih =>
      rw [List.cons_append, words_cons_of_blank (hrun c List.mem_cons_self)]
      exact ih fun d hd => hrun d (List.mem_cons_of_mem c hd)

/-- No word goes on over blanks. -/
theorem splitWords_append {run : List Char} (hne : run ≠ []) (hrun : Blanks run)
    (cs : List Char) : splitWords (run ++ cs) = ([], words cs) := by
  cases run with
  | nil => exact absurd rfl hne
  | cons c rest =>
      have hrest : Blanks rest := fun d hd => hrun d (List.mem_cons_of_mem c hd)
      rw [List.cons_append, splitWords_cons_of_blank (hrun c List.mem_cons_self),
        words_append hrest]

theorem splitWords_of_blanks {run : List Char} (hrun : Blanks run) :
    splitWords run = ([], []) := by
  cases hcases : run with
  | nil => rfl
  | cons c rest =>
      have hword := splitWords_append (by simp [hcases]) hrun []
      rw [List.append_nil, hcases] at hword
      exact hword

/-- Blanks behind a text do not change its words. -/
theorem splitWords_append_blanks {back : List Char} (hback : Blanks back) (cs : List Char) :
    splitWords (cs ++ back) = splitWords cs := by
  induction cs with
  | nil => exact splitWords_of_blanks hback
  | cons c rest ih =>
      by_cases hc : isBlank c = true
      · rw [List.cons_append, splitWords_cons_of_blank hc, splitWords_cons_of_blank hc,
          words_eq_of_splitWords_eq ih]
      · rw [List.cons_append, splitWords_cons_of_not_blank hc, splitWords_cons_of_not_blank hc, ih]

theorem blanks_takeWhile (cs : List Char) : Blanks (cs.takeWhile isBlank) :=
  fun _ hc => List.mem_takeWhile_imp hc

/-- A text is what is left of it without blanks at its two ends, with these around it. -/
theorem exists_padded (cs : List Char) :
    ∃ front back, Blanks front ∧ Blanks back ∧ cs = front ++ trimChars cs ++ back := by
  have hstart : cs.takeWhile isBlank ++ dropBlanks cs = cs := List.takeWhile_append_dropWhile
  have hend : (dropBlanks cs).reverse.takeWhile isBlank ++ dropBlanks (dropBlanks cs).reverse =
      (dropBlanks cs).reverse := List.takeWhile_append_dropWhile
  refine ⟨_, _, blanks_takeWhile cs, (blanks_takeWhile (dropBlanks cs).reverse).reverse, ?_⟩
  rw [trimChars, List.append_assoc, ← List.reverse_append, hend, List.reverse_reverse, hstart]

/-- Blanks around a text are no part of its words. -/
theorem words_trimChars (cs : List Char) : words (trimChars cs) = words cs := by
  obtain ⟨front, back, hfront, hback, hcs⟩ := exists_padded cs
  calc words (trimChars cs)
      = words (trimChars cs ++ back) :=
        (words_eq_of_splitWords_eq (splitWords_append_blanks hback _)).symm
    _ = words (front ++ (trimChars cs ++ back)) := (words_append hfront _).symm
    _ = words cs := by rw [← List.append_assoc, ← hcs]

/-! ## Small letters -/

def lowered (cs : List Char) : List Char :=
  cs.map Char.toLower

theorem isBlank_of_isAlpha {c : Char} (hc : c.isAlpha = true) : isBlank c = false := by
  simp only [Char.isAlpha, Char.isUpper, Char.isLower, UInt32.le_iff_toNat_le, Bool.or_eq_true,
    Bool.and_eq_true, decide_eq_true_eq] at hc
  have hletter : (65 ≤ c.toNat ∧ c.toNat ≤ 90) ∨ (97 ≤ c.toNat ∧ c.toNat ≤ 122) := hc
  rw [Bool.eq_false_iff]
  intro hblank
  simp only [isBlank, Bool.or_eq_true, Bool.and_eq_true, decide_eq_true_eq, beq_iff_eq] at hblank
  omega

/-- Making letters small makes no blanks and takes none away. -/
theorem isBlank_toLower (c : Char) : isBlank c.toLower = isBlank c := by
  by_cases hc : c.isUpper = true
  · have halpha : c.isAlpha = true := by simp [Char.isAlpha, hc]
    rw [isBlank_of_isAlpha halpha, isBlank_of_isAlpha (by simpa using halpha)]
  · rw [Char.toLower_eq_of_not_isUpper hc]

theorem capitals_of_isAlpha {c : Char} (hc : c.isAlpha = true) : capitals c = [c.toUpper] := by
  unfold capitals
  split
  case h_11 => rfl
  all_goals exact absurd hc (by decide)

/-- The capital form of a letter of ASCII is the same for its small form. -/
theorem capitals_toLower (c : Char) : capitals c.toLower = capitals c := by
  by_cases hc : c.isUpper = true
  · have halpha : c.isAlpha = true := by simp [Char.isAlpha, hc]
    rw [capitals_of_isAlpha halpha, capitals_of_isAlpha (by simpa using halpha),
      Char.toUpper_toLower_eq_toUpper]
  · rw [Char.toLower_eq_of_not_isUpper hc]

/-- The capitals of small letters are those of the letters. -/
theorem upper_lowered (cs : List Char) : upper (lowered cs) = upper cs := by
  induction cs with
  | nil => rfl
  | cons c rest ih =>
      rw [lowered, List.map_cons, upper, List.flatMap_cons, capitals_toLower]
      exact congrArg (capitals c ++ ·) ih

/-- Two texts with the same words but for the case of ASCII letters: one is made of the other by
changing the case of letters and the blanks between words. -/
inductive Respelled : List Char → List Char → Prop where
  | nil : Respelled [] []
  | letter {c d : Char} {cs ds : List Char} (hcase : c.toLower = d.toLower)
      (hrest : Respelled cs ds) : Respelled (c :: cs) (d :: ds)
  | blanks {run other cs ds : List Char} (hrun : run ≠ [] ∧ Blanks run)
      (hother : other ≠ [] ∧ Blanks other) (hrest : Respelled cs ds) :
      Respelled (run ++ cs) (other ++ ds)

theorem words_lowered_eq {cs ds : List Char}
    (hfirst : lowered (splitWords cs).1 = lowered (splitWords ds).1)
    (hlater : (splitWords cs).2.map lowered = (splitWords ds).2.map lowered) :
    (words cs).map lowered = (words ds).map lowered := by
  have hempty : (splitWords cs).1.isEmpty = (splitWords ds).1.isEmpty := by
    have hmap := congrArg List.isEmpty hfirst
    rwa [lowered, lowered, List.isEmpty_map, List.isEmpty_map] at hmap
  unfold words
  simp only [hempty]
  split
  next => exact hlater
  next => rw [List.map_cons, List.map_cons, hfirst, hlater]

/-- The words of a text made of another one differ from its words in the case of letters alone. -/
theorem Respelled.splitWords {cs ds : List Char} (hrespelled : Respelled cs ds) :
    lowered (splitWords cs).1 = lowered (splitWords ds).1 ∧
      (splitWords cs).2.map lowered = (splitWords ds).2.map lowered := by
  -- the first word and the later ones go together, since a blank makes the first a later one
  induction hrespelled with
  | nil => exact ⟨rfl, rfl⟩
  | @letter c d cs ds hcase hrest ih =>
      have hblank : isBlank c = isBlank d := by
        rw [← isBlank_toLower c, hcase, isBlank_toLower]
      by_cases hc : isBlank c = true
      · rw [splitWords_cons_of_blank hc, splitWords_cons_of_blank (hblank ▸ hc)]
        exact ⟨rfl, words_lowered_eq ih.1 ih.2⟩
      · rw [splitWords_cons_of_not_blank hc, splitWords_cons_of_not_blank (hblank ▸ hc)]
        refine ⟨?_, ih.2⟩
        rw [lowered, lowered, List.map_cons, List.map_cons, hcase]
        exact congrArg (d.toLower :: ·) ih.1
  | blanks hrun hother hrest ih =>
      rw [splitWords_append hrun.1 hrun.2, splitWords_append hother.1 hother.2]
      exact ⟨rfl, words_lowered_eq ih.1 ih.2⟩

/-- Respelled texts have the same words in small letters. -/
theorem Respelled.words {cs ds : List Char} (hrespelled : Respelled cs ds) :
    (words cs).map lowered = (words ds).map lowered :=
  words_lowered_eq hrespelled.splitWords.1 hrespelled.splitWords.2

end TwinQuery.Text
