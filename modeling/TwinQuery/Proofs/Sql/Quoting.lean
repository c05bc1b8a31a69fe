import TwinQuery.Proofs.Sql.Parsing

/-!
# Quotes that delimit

A reader that knows only the quote character finds the end of a quoted text in whatever stands
there, and what it reads tells where the text came from. A name of several parts is quoted part by
part and yet never looks like a name that is quoted as a whole, so no two columns are written
alike: `Identifier.delimits_and_injective`.
-/

namespace TwinQuery

namespace Text

/-- The quoted text at the front of a text, read from its opening quote character, and what follows
its closing one. -/
def unquote? (quote : Char) (whole : String) : Option (String × String) :=
  match whole.toList with
  | [] => none
  | c :: rest =>
      if c = quote then
        (Quoted.scan quote rest).map fun (text, after) => (String.ofList text, String.ofList after)
      else none

/-- A way of quoting delimits texts when a reader finds in front of a text exactly what was quoted
there, and leaves exactly what follows it. What follows never begins with a quote character. -/
def Delimits (quote : Char) (write : String → String) : Prop :=
  ∀ whole text after, unquote? quote whole = some (text, after) ↔
    whole = write text ++ after ∧ after.toList.head? ≠ some quote

/-- Quoting with doubled quote characters delimits. -/
theorem delimits_quoted (quote : Char) : Delimits quote (quoted quote) := by
  intro whole text after
  have hwhole : whole = quoted quote text ++ after ↔
      whole.toList = quote :: (Quoted.encode quote text.toList ++ quote :: after.toList) := by
    rw [← String.toList_inj]
    simp [quoted]
  rw [hwhole, unquote?]
  cases hchars : whole.toList with
  | nil => simp
  | cons c rest =>
      by_cases hc : c = quote
      · subst hc
        simp only [if_true, List.cons.injEq, true_and]
        rw [← Quoted.scan_eq_some_iff, Option.map_eq_some_iff]
        constructor
        · rintro ⟨⟨inner, left⟩, hscan, heq⟩
          obtain ⟨rfl, rfl⟩ := Prod.mk.inj heq
          simpa using hscan
        · intro hscan
          exact ⟨(text.toList, after.toList), hscan, by simp⟩
      · simp [hc]

/-- A doubled quote character is part of the text, the next single one ends it. -/
example : unquote? '"' "\"a\"\"\" = 1" = some ("a\"", " = 1") := by decide

/-- Texts that are quoted alike, whatever follows, are alike, and so is what follows. -/
theorem Delimits.append_inj {quote : Char} {write : String → String} (h : Delimits quote write)
    {first second after later : String} (hafter : after.toList.head? ≠ some quote)
    (hlater : later.toList.head? ≠ some quote)
    (heq : write first ++ after = write second ++ later) : first = second ∧ after = later := by
  have hfirst := (h _ first after).2 ⟨rfl, hafter⟩
  have hsecond := (h _ second later).2 ⟨rfl, hlater⟩
  rw [heq, hsecond] at hfirst
  obtain ⟨hname, hrest⟩ := Prod.mk.inj (Option.some.inj hfirst)
  exact ⟨hname.symm, hrest.symm⟩

end Text

namespace Identifier

/-- A name of several plain parts. -/
def IsDotted (name : String) : Prop :=
  '.' ∈ name.toList ∧ isPath name = true

/-- The parts of a name between its dots. -/
def parts (name : String) : List String :=
  (dotted name.toList).map String.ofList

theorem dotted_of_not_mem {cs : List Char} (h : '.' ∉ cs) : dotted cs = [cs] := by
  induction cs with
  | nil => rfl
  | cons c rest ih =>
      have hc : c ≠ '.' := fun heq => h (heq ▸ List.mem_cons_self)
      rw [dotted, if_neg hc, ih fun hrest => h (List.mem_cons_of_mem _ hrest)]

/-- A dot stands between two parts. -/
theorem exists_dotted_of_mem {cs : List Char} (h : '.' ∈ cs) :
    ∃ first second rest, dotted cs = first :: second :: rest := by
  induction cs with
  | nil => simp at h
  | cons c rest ih =>
      by_cases hc : c = '.'
      · obtain ⟨part, parts, hparts⟩ := List.exists_cons_of_ne_nil (Sql.dotted_ne_nil rest)
        exact ⟨[], part, parts, by rw [dotted, if_pos hc, hparts]⟩
      · obtain ⟨first, second, parts, hparts⟩ :=
          ih ((List.mem_cons.1 h).resolve_left fun heq => hc heq.symm)
        exact ⟨c :: first, second, parts, by rw [dotted, if_neg hc, hparts]⟩

/-- A name of several plain parts is quoted part by part. -/
theorem column_of_isDotted {name : String} (h : IsDotted name) :
    column name = ".".intercalate ((parts name).map quote) := by
  rw [column, if_pos h.2, parts, List.map_map]
  rfl

/-- Any other name is quoted as a whole, a plain one as well. -/
theorem column_of_not_isDotted {name : String} (h : ¬IsDotted name) : column name = quote name := by
  unfold column
  split
  next hpath =>
    have hdot : '.' ∉ name.toList := fun hmem => h ⟨hmem, hpath⟩
    rw [dotted_of_not_mem hdot]
    simp
  next => rfl

/-- Behind the first part of what is quoted part by part a dot follows, behind what is quoted as a
whole nothing. -/
theorem column_ne_quote {name : String} (h : IsDotted name) (other : String) :
    column name ≠ quote other := by
  intro heq
  obtain ⟨first, second, rest, hparts⟩ := exists_dotted_of_mem h.1
  rw [column_of_isDotted h, parts, hparts] at heq
  simp only [List.map_cons, String.intercalate_cons_cons, String.append_assoc] at heq
  have hnothing : quote other = quote other ++ "" := String.append_empty.symm
  rw [hnothing] at heq
  have hbehind := ((Text.delimits_quoted '"').append_inj (by simp) (by simp) heq).2
  simpa using congrArg String.toList hbehind

/-- Names and literals end where a reader of doubled quote characters stops. A name of several
plain parts is quoted part by part, every other one as a whole, none of the first kind looks like
any name in quotes, and different names are different columns. -/
theorem delimits_and_injective :
    Text.Delimits '"' quote ∧
      Text.Delimits '\'' (fun text => (Scalar.text text).literal) ∧
      (∀ name, IsDotted name → column name = ".".intercalate ((parts name).map quote)) ∧
      (∀ name, ¬IsDotted name → column name = quote name) ∧
      (∀ name other, IsDotted name → column name ≠ quote other) ∧
      Function.Injective column :=
  ⟨Text.delimits_quoted '"', Text.delimits_quoted '\'', fun _ => column_of_isDotted,
    fun _ => column_of_not_isDotted, fun _ other h => column_ne_quote h other,
    Sql.column_injective⟩

end Identifier

end TwinQuery
