import TwinQuery.Proofs.Sql.Syntax

/-!
# Statements with their values written out

With literals for its values, a skeleton is a list of tokens that depends on nothing else. The
words among them are its keywords, `NULL` and the truth values; the names, the literals and the
commas inside parentheses give a reader that cuts at keywords and commas nothing to cut at.
-/

namespace TwinQuery

namespace Sql

def Mark.written : Mark → List Token
  | fixed token => [token]
  | count n => [.number false n.toNat 0]
  | table name => [.name name.text]
  | column name => columnTokens name
  | slot value => [literalToken value]

/-- The tokens of a skeleton, its values written out. -/
def Skeleton.written (skeleton : Skeleton) : List Token :=
  skeleton.flatMap Mark.written

namespace Skeleton

/-- With literals in the text, a skeleton is filled with its values written out. -/
theorem fill_eq_written (skeleton : Skeleton) {bindings : Bindings}
    (hstyle : bindings.style = .inline) : skeleton.fill bindings = skeleton.written := by
  induction skeleton generalizing bindings with
  | nil => rfl
  | cons mark rest ih =>
      cases mark with
      | slot value =>
          have hbound : (bindings.bind value).2.style = .inline := hstyle
          simp only [fill, valueToken, hstyle, ih hbound]
          rfl
      | _ =>
          simp only [fill, ih hstyle]
          rfl

theorem written_append (first second : Skeleton) :
    (first ++ second).written = first.written ++ second.written :=
  List.flatMap_append

theorem written_cons (mark : Mark) (rest : Skeleton) :
    Skeleton.written (mark :: rest) = mark.written ++ rest.written :=
  List.flatMap_cons

theorem written_fixed (read : List Token) : Skeleton.written (read.map Mark.fixed) = read := by
  induction read with
  | nil => rfl
  | cons token rest ih => exact congrArg (token :: ·) ih

theorem written_separated (parts : List Skeleton) :
    (separated parts).written = [.symbol ","].intercalate (parts.map Skeleton.written) :=
  flatMap_intercalate Mark.written [symbol ","] parts

theorem written_parenthesized (part : Skeleton) :
    (parenthesized part).written = .symbol "(" :: (part.written ++ [.symbol ")"]) := by
  rw [parenthesized, List.cons_append, written_cons, written_append]
  rfl

end Skeleton

/-! ## Literals -/

/-- The value that a scalar is written as. A double that is not finite is written as null. -/
def shown : Scalar → Literal
  | .null => .null
  | .bool value => .bool value
  | .int value => .number (decide (value.toInt < 0)) value.toInt.natAbs 0
  | .float value =>
      if value.isFinite then
        .number (Decimal.isNegative value) (Decimal.shownSize value).numerator
          (Decimal.shownSize value).places
      else .null
  | .text value => .text value

/-- The token of a scalar shows the value that it is written as. -/
theorem ofToken?_literalToken (value : Scalar) :
    Literal.ofToken? (literalToken value) = some (shown value) := by
  cases value with
  | bool value => cases value <;> rfl
  | float value =>
      simp only [literalToken, shown]
      split <;> rfl
  | _ => rfl

def literalWords : List String :=
  ["NULL", "TRUE", "FALSE"]

theorem mem_literalWords {word : String} {literal : Literal}
    (h : Literal.ofToken? (.word word) = some literal) : word ∈ literalWords := by
  unfold Literal.ofToken? at h
  simp only at h
  split at h
  next hnull => simp [literalWords, hnull]
  next =>
    split at h
    next htrue => simp [literalWords, htrue]
    next =>
      split at h
      next hfalse => simp [literalWords, hfalse]
      next => simp at h

/-! ## Where a reader may cut -/

def Token.word? : Token → Option String
  | word text => some text
  | _ => none

/-- Every word among the tokens is one of the given ones. -/
def WordsIn (words : List String) (read : List Token) : Prop :=
  ∀ word ∈ read.filterMap Token.word?, word ∈ words

instance (words : List String) (read : List Token) : Decidable (WordsIn words read) :=
  inferInstanceAs (Decidable (∀ word ∈ read.filterMap Token.word?, word ∈ words))

section Words

variable {words : List String}

theorem wordsIn_iff {read : List Token} :
    WordsIn words read ↔ ∀ word, Token.word word ∈ read → word ∈ words := by
  constructor
  · intro h word hword
    exact h word (List.mem_filterMap.2 ⟨.word word, hword, rfl⟩)
  · intro h word hword
    obtain ⟨token, htoken, heq⟩ := List.mem_filterMap.1 hword
    cases token with
    | word text =>
        cases heq
        exact h _ htoken
    | _ => simp [Token.word?] at heq

theorem wordsIn_append {first second : List Token} :
    WordsIn words (first ++ second) ↔ WordsIn words first ∧ WordsIn words second := by
  unfold WordsIn
  rw [List.filterMap_append, List.forall_mem_append]

theorem wordsIn_cons {token : Token} {rest : List Token} :
    WordsIn words (token :: rest) ↔ WordsIn words [token] ∧ WordsIn words rest :=
  @wordsIn_append words [token] rest

/-- A keyword that is not among the words is not in the text. -/
theorem WordsIn.not_mem {read : List Token} {word : String} (h : WordsIn words read)
    (hword : word ∉ words) : Token.word word ∉ read :=
  fun hmem => hword (wordsIn_iff.1 h word hmem)

theorem WordsIn.mono {more : List String} {read : List Token} (h : WordsIn words read)
    (hmore : words ⊆ more) : WordsIn more read :=
  fun word hword => hmore (h word hword)

theorem WordsIn.append {later : List String} {first second : List Token}
    (hfirst : WordsIn words first) (hsecond : WordsIn later second) :
    WordsIn (words ++ later) (first ++ second) :=
  wordsIn_append.2 ⟨hfirst.mono (List.subset_append_left _ _),
    hsecond.mono (List.subset_append_right _ _)⟩

end Words

theorem mem_intercalate {α : Type} {entry : α} {separator : List α} {parts : List (List α)}
    (h : entry ∈ separator.intercalate parts) :
    entry ∈ separator ∨ ∃ part ∈ parts, entry ∈ part := by
  induction parts with
  | nil => simp at h
  | cons part rest ih =>
      cases rest with
      | nil => exact Or.inr ⟨part, List.mem_cons_self, by simpa using h⟩
      | cons following rest =>
          rw [List.intercalate_cons_cons] at h
          rcases List.mem_append.1 h with hfront | hlater
          · rcases List.mem_append.1 hfront with hpart | hseparator
            · exact Or.inr ⟨part, List.mem_cons_self, hpart⟩
            · exact Or.inl hseparator
          · rcases ih hlater with hseparator | ⟨later, hmem, hentry⟩
            · exact Or.inl hseparator
            · exact Or.inr ⟨later, List.mem_cons_of_mem _ hmem, hentry⟩

/-- Commas between parts add no words. -/
theorem wordsIn_separated {words : List String} {parts : List Skeleton}
    (hparts : ∀ part ∈ parts, WordsIn words part.written) :
    WordsIn words (Skeleton.separated parts).written := by
  rw [wordsIn_iff]
  intro word hword
  rw [Skeleton.written_separated] at hword
  rcases mem_intercalate hword with hcomma | ⟨read, hread, hmem⟩
  · simp at hcomma
  · obtain ⟨part, hpart, rfl⟩ := List.mem_map.1 hread
    exact wordsIn_iff.1 (hparts part hpart) word hmem

/-- A column is written with names and points. -/
theorem mem_columnTokens {token : Token} {name : String} (h : token ∈ columnTokens name) :
    (∃ part, token = .name part) ∨ token = .symbol "." := by
  unfold columnTokens at h
  split at h
  · rcases mem_intercalate h with hpoint | ⟨part, hpart, htoken⟩
    · exact Or.inr (List.mem_singleton.1 hpoint)
    · obtain ⟨chars, -, rfl⟩ := List.mem_map.1 hpart
      exact Or.inl ⟨String.ofList chars, List.mem_singleton.1 htoken⟩
  · exact Or.inl ⟨name, List.mem_singleton.1 h⟩

/-- A column has no words, even if its name is a keyword: its tokens are names. -/
theorem wordsIn_columnTokens (words : List String) (name : String) :
    WordsIn words (columnTokens name) := by
  rw [wordsIn_iff]
  intro word hword
  rcases mem_columnTokens hword with ⟨part, hname⟩ | hpoint
  · exact Token.noConfusion hname
  · exact Token.noConfusion hpoint

/-- A comma in a name is part of the name. -/
theorem comma_not_mem_columnTokens (name : String) : Token.symbol "," ∉ columnTokens name := by
  intro hcomma
  rcases mem_columnTokens hcomma with ⟨part, hname⟩ | hpoint
  · exact Token.noConfusion hname
  · simp at hpoint

/-- The only words of a value are those for null and for the truth values, even if a string holds
others. -/
theorem wordsIn_literalToken (value : Scalar) : WordsIn literalWords [literalToken value] := by
  rw [wordsIn_iff]
  intro word hword
  have htoken := ofToken?_literalToken value
  rw [← List.mem_singleton.1 hword] at htoken
  exact mem_literalWords htoken

theorem literalToken_ne_symbol (value : Scalar) (mark : String) :
    literalToken value ≠ .symbol mark := by
  intro heq
  have htoken := ofToken?_literalToken value
  rw [heq] at htoken
  simp [Literal.ofToken?] at htoken

/-- The words of conditions, the keyword that joins them apart. -/
def conditionWords : List String :=
  ["IN", "NOT", "LIKE", "IS", "NEUROMATCH", "QUANTUM_ENTANGLE"] ++ literalWords

theorem wordsIn_operatorTokens (operator : Operator) :
    WordsIn conditionWords (operatorTokens operator) := by
  cases operator <;> decide

end Sql

end TwinQuery
