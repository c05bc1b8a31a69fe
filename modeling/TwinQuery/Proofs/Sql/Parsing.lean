import Mathlib.Data.List.TakeWhile
import TwinQuery.Proofs.Sql.Written

/-!
# Cutting tokens where they were joined

A column is read back from its tokens, a clause is found behind its keyword, and the parts of a
list are found between its commas. Each cut falls where the writer joined the parts, because the
parts hold neither the keyword nor the comma that is cut at.
-/

namespace TwinQuery

namespace Sql

theorem mapM_map_of_eq_some {α β γ : Type} {f : β → Option γ} {g : α → β} {h : α → γ}
    {entries : List α} (hf : ∀ entry ∈ entries, f (g entry) = some (h entry)) :
    (entries.map g).mapM f = some (entries.map h) := by
  induction entries with
  | nil => rfl
  | cons entry rest ih =>
      have hrest := ih fun later hlater => hf later (List.mem_cons_of_mem _ hlater)
      rw [List.map_cons, List.mapM_cons, hf entry List.mem_cons_self, hrest]
      rfl

/-! ## Columns -/

theorem columnAt?_name (part : String) {rest : List Token}
    (hrest : rest.head? ≠ some (.symbol ".")) :
    columnAt? (.name part :: rest) = some (part, rest) := by
  cases rest with
  | nil => rfl
  | cons token later =>
      cases token with
      | symbol mark =>
          have hmark : mark ≠ "." := by
            rintro rfl
            exact hrest rfl
          rw [columnAt?, if_neg hmark]
      | _ => rfl

/-- Names with points between them are read as one column, unless another point follows. -/
theorem columnAt?_parts {parts : List (List Char)} (hparts : parts ≠ []) {rest : List Token}
    (hrest : rest.head? ≠ some (.symbol ".")) :
    columnAt? ([.symbol "."].intercalate (parts.map fun part => [.name (String.ofList part)]) ++
      rest) = some (".".intercalate (parts.map String.ofList), rest) := by
  induction parts with
  | nil => exact absurd rfl hparts
  | cons part later ih =>
      cases later with
      | nil => simpa using columnAt?_name (String.ofList part) hrest
      | cons following later =>
          have hlater := ih (by simp)
          simp only [List.map_cons, List.intercalate_cons_cons, String.intercalate_cons_cons,
            List.cons_append, List.nil_append] at hlater ⊢
          rw [columnAt?, if_pos rfl, hlater]
          simp [String.append_assoc]

/-- The parts of a name with the dots between them make up the name. -/
theorem intercalate_dotted (cs : List Char) : ['.'].intercalate (Identifier.dotted cs) = cs := by
  induction cs with
  | nil => rfl
  | cons c rest ih =>
      -- a point begins a part, any other character goes to the front of the part behind it
      obtain ⟨part, parts, hparts⟩ := List.exists_cons_of_ne_nil (dotted_ne_nil rest)
      rw [Identifier.dotted]
      split
      next hpoint =>
        rw [hparts] at ih ⊢
        rw [List.intercalate_cons_cons, ih, hpoint]
        rfl
      next =>
        rw [hparts] at ih ⊢
        simp only
        cases parts with
        | nil =>
            rw [List.intercalate_singleton] at ih ⊢
            rw [ih]
        | cons following parts =>
            rw [List.intercalate_cons_cons] at ih ⊢
            rw [List.cons_append, List.cons_append, ih]

/-- The parts of a name, joined again, are the name. -/
theorem join_dotted (name : String) :
    ".".intercalate ((Identifier.dotted name.toList).map String.ofList) = name := by
  apply String.toList_inj.1
  rw [String.toList_intercalate, List.map_map]
  have hparts : (Identifier.dotted name.toList).map (String.toList ∘ String.ofList) =
      Identifier.dotted name.toList := by
    simp [Function.comp_def]
  rw [hparts]
  exact intercalate_dotted name.toList

/-- A column is read back from its tokens, whatever follows but a point. -/
theorem columnAt?_columnTokens (name : String) {rest : List Token}
    (hrest : rest.head? ≠ some (.symbol ".")) :
    columnAt? (columnTokens name ++ rest) = some (name, rest) := by
  unfold columnTokens
  split
  · rw [columnAt?_parts (dotted_ne_nil name.toList) hrest, join_dotted]
  · exact columnAt?_name name hrest

/-- A column is read back from its tokens. -/
theorem columnOf?_columnTokens (name : String) : columnOf? (columnTokens name) = some name := by
  have hcolumn : columnAt? (columnTokens name ++ []) = some (name, []) :=
    columnAt?_columnTokens name (by simp)
  rw [List.append_nil] at hcolumn
  rw [columnOf?, hcolumn]

/-- Columns that are written alike have one name. -/
theorem column_injective : Function.Injective Identifier.column := by
  intro first second heq
  have hfirst : tokens (Identifier.column first).toList = some (columnTokens first) :=
    reads_column first
  have hsecond : tokens (Identifier.column second).toList = some (columnTokens second) :=
    reads_column second
  rw [heq, hsecond] at hfirst
  have hread := columnOf?_columnTokens second
  rw [Option.some.inj hfirst, columnOf?_columnTokens] at hread
  exact Option.some.inj hread

/-- A column begins with a name. -/
theorem exists_columnTokens_eq (name : String) :
    ∃ part rest, columnTokens name = .name part :: rest := by
  unfold columnTokens
  split
  · obtain ⟨part, parts, hparts⟩ := List.exists_cons_of_ne_nil (dotted_ne_nil name.toList)
    rw [hparts]
    cases parts with
    | nil => exact ⟨String.ofList part, [], by simp⟩
    | cons following parts =>
        rw [List.map_cons, List.map_cons, List.intercalate_cons_cons]
        exact ⟨String.ofList part, _, rfl⟩
  · exact ⟨name, [], rfl⟩

/-! ## Cuts -/

/-- The first keyword of its kind divides the tokens. -/
theorem clause_append {word : String} {before after : List Token}
    (hbefore : Token.word word ∉ before) :
    clause word (before ++ .word word :: after) = (before, some after) := by
  have hfree : ∀ token ∈ before, decide (token ≠ .word word) = true := by
    intro token htoken
    exact decide_eq_true fun heq => hbefore (heq ▸ htoken)
  unfold clause
  rw [List.dropWhile_append_of_pos hfree, List.takeWhile_append_of_pos hfree]
  simp

theorem clause_of_not_mem {word : String} {read : List Token} (hread : Token.word word ∉ read) :
    clause word read = (read, none) := by
  have hfree : ∀ token ∈ read, decide (token ≠ .word word) = true := by
    intro token htoken
    exact decide_eq_true fun heq => hread (heq ▸ htoken)
  rw [clause, List.dropWhile_eq_nil_iff.2 hfree]

def optionalClause (word : String) : Option (List Token) → List Token
  | none => []
  | some after => .word word :: after

/-- A cut at the keyword of a clause finds the clause, if it is there. -/
theorem clause_optional {word : String} {before : List Token} (after? : Option (List Token))
    (hbefore : Token.word word ∉ before) :
    clause word (before ++ optionalClause word after?) = (before, after?) := by
  cases after? with
  | none => rw [optionalClause, List.append_nil, clause_of_not_mem hbefore]
  | some after => exact clause_append hbefore

/-- Parts that hold no comma are read one by one. -/
theorem listOf?_separated {α β : Type} {read : List Token → Option β} {skeleton : α → Skeleton}
    {value : α → β} {parts : List α} (hne : parts ≠ [])
    (hcomma : ∀ part ∈ parts, Token.symbol "," ∉ (skeleton part).written)
    (hread : ∀ part ∈ parts, read (skeleton part).written = some (value part)) :
    listOf? read (Skeleton.separated (parts.map skeleton)).written = some (parts.map value) := by
  have hfree : ∀ written ∈ (parts.map skeleton).map Skeleton.written,
      Token.symbol "," ∉ written := by
    intro written hwritten
    rw [List.map_map] at hwritten
    obtain ⟨part, hpart, rfl⟩ := List.mem_map.1 hwritten
    exact hcomma part hpart
  have hsplit := List.splitOn_intercalate (Token.symbol ",") hfree (by simpa using hne)
  rw [listOf?, Skeleton.written_separated, hsplit, List.map_map]
  exact mapM_map_of_eq_some hread

end Sql

end TwinQuery
