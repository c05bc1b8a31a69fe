import TwinQuery.Proofs.Statement.Body
import TwinQuery.Proofs.Statement.Refusal
import TwinQuery.Proofs.Text.Words

/-!
# Operators given as texts

A text is an operator when it is its name in request bodies, blanks around it aside, or when its
words in capital letters spell it as in SQL text. So case and blanks between words count for names
only: `Operator.grammar`.
-/

namespace TwinQuery

namespace Operator

/-- How an operator is spelled in SQL text: by its token, though of the operators that share one the
plain pattern match alone. Equality and its negation have another spelling each. -/
def Spelling (operator : Operator) (spelled : String) : Prop :=
  (spelled = operator.token ∧ operator ∉ [contains, startsWith, endsWith]) ∨
    (operator = equal ∧ spelled = "==") ∨ (operator = notEqual ∧ spelled = "<>")

instance (operator : Operator) (spelled : String) : Decidable (operator.Spelling spelled) :=
  inferInstanceAs (Decidable (_ ∨ _))

/-! ## Names and spellings -/

/-- A text names an operator exactly where it is its name in bodies. -/
theorem named?_eq_some_iff {name : String} {operator : Operator} :
    named? name = some operator ↔ name = operator.wireName := by
  constructor
  case mp =>
    intro hnamed
    have hname := List.find?_some hnamed
    exact (beq_iff_eq.1 hname).symm
  case mpr =>
    rintro rfl
    exact named?_wireName operator

/-- A text is found among the spellings exactly where it is one of an operator. -/
theorem lookup_spellings_eq_some_iff {spelled : String} {operator : Operator} :
    spellings.lookup spelled = some operator ↔ operator.Spelling spelled := by
  constructor
  case mp =>
    intro hfound
    obtain ⟨before, after, hsplit, _⟩ := List.lookup_eq_some_iff.1 hfound
    have hmem : (spelled, operator) ∈ spellings := by
      rw [hsplit]
      exact List.mem_append_right before List.mem_cons_self
    have hall : ∀ entry ∈ spellings, entry.2.Spelling entry.1 := by decide
    exact hall _ hmem
  case mpr =>
    rintro (⟨rfl, hplain⟩ | ⟨rfl, rfl⟩ | ⟨rfl, rfl⟩)
    · cases operator with
      | contains => exact absurd (by decide) hplain
      | startsWith => exact absurd (by decide) hplain
      | endsWith => exact absurd (by decide) hplain
      | _ => rfl
    · rfl
    · rfl

/-- A name that spells an operator, in capital letters, is the name of that operator. -/
theorem eq_of_spelling_wireName {operator other : Operator}
    (hspelling : other.Spelling (normalized operator.wireName)) : other = operator := by
  have hnames : ∀ named : Operator,
      ∀ found ∈ spellings.lookup (normalized named.wireName), found = named := by
    intro named
    cases named <;> decide
  exact hnames operator other (lookup_spellings_eq_some_iff.2 hspelling)

/-! ## Words of an operator -/

/-- Blanks around a text do not matter to its words. -/
theorem normalized_trim (text : String) : normalized (Text.trim text) = normalized text := by
  rw [normalized, normalized, Text.trim, String.toList_ofList, Text.words_trimChars]

/-- The words in capital letters, one space between each and the next. -/
theorem normalized_eq (text : String) :
    normalized text =
      String.ofList ([' '].intercalate ((Text.words text.toList).map Text.upper)) := by
  rw [normalized, Text.upper, Sql.flatMap_intercalate]
  rfl

/-- The spelling depends on the words in small letters only. -/
theorem normalized_eq_of_respelled {text other : String}
    (hrespelled : Text.Respelled text.toList other.toList) :
    normalized text = normalized other := by
  have hupper : ∀ words : List (List Char),
      words.map Text.upper = (words.map Text.lowered).map Text.upper := by
    intro words
    rw [List.map_map]
    exact List.map_congr_left fun word _ => (Text.upper_lowered word).symm
  rw [normalized_eq, normalized_eq, hupper, hrespelled.words, ← hupper]

/-! ## Parsing -/

section Parsing

variable {text : String} {operator : Operator}

/-- Names come before spellings, which makes no difference. -/
theorem parse_eq_ok_iff :
    parse text = .ok operator ↔
      Text.trim text = operator.wireName ∨ operator.Spelling (normalized text) := by
  unfold parse
  simp only [normalized_trim]
  cases hnamed : named? (Text.trim text) with
  | some named =>
      have hname := named?_eq_some_iff.1 hnamed
      constructor
      case mp =>
        intro hparse
        cases hparse
        exact Or.inl hname
      case mpr =>
        rintro (hother | hspelling)
        · rw [named?_eq_some_iff.2 hother] at hnamed
          cases hnamed
          rfl
        · -- the words of a name spell the operator of that name, if they spell any
          rw [← normalized_trim, hname] at hspelling
          rw [eq_of_spelling_wireName hspelling]
  | none =>
      have hnot : Text.trim text ≠ operator.wireName := by
        intro hname
        rw [named?_eq_some_iff.2 hname] at hnamed
        cases hnamed
      rw [or_iff_right hnot, ← lookup_spellings_eq_some_iff]
      cases spellings.lookup (normalized text) with
      | some found => simp
      | none => simp

/-- The blanks around a text have no part in what it is parsed as, nor in the error. -/
theorem parse_eq_of_trim_eq {other : String} (htrim : Text.trim text = Text.trim other) :
    parse text = parse other := by
  unfold parse
  rw [htrim]

/-- Blanks put around a text are trimmed with its own. -/
theorem trim_padded {front back : String} (hfront : Text.isBlankText front = true)
    (hback : Text.isBlankText back = true) (text : String) :
    Text.trim (front ++ text ++ back) = Text.trim text := by
  rw [Text.trim, Text.trim, String.toList_append, String.toList_append,
    Text.trimChars_padded (List.all_eq_true.1 hfront) (List.all_eq_true.1 hback)]

/-- The pattern operators with a pattern of their own have no spelling, since they share their token
with the plain match. -/
theorem not_spelling_of_pattern (hpattern : operator ∈ [contains, startsWith, endsWith])
    (spelled : String) : ¬operator.Spelling spelled := by
  rintro (⟨_, hplain⟩ | ⟨rfl, _⟩ | ⟨rfl, _⟩)
  · exact hplain hpattern
  · exact absurd hpattern (by decide)
  · exact absurd hpattern (by decide)

theorem parse_wireName (operator : Operator) : parse operator.wireName = .ok operator := by
  have htrim : Text.trim operator.wireName = operator.wireName := by
    cases operator <;> decide
  exact parse_eq_ok_iff.2 (Or.inl htrim)

/-- A token is parsed as an operator with that token. -/
theorem parse_token (operator : Operator) :
    ∃ same, parse operator.token = .ok same ∧ same.token = operator.token := by
  cases operator <;> exact ⟨_, rfl, rfl⟩

end Parsing

end Operator

/-! ## Conditions with an operator as a text -/

/-- Every builder makes the same of two steps. -/
structure Conditions.Step.ActsAs (step other : Conditions.Step) : Prop where
  select : ∀ select : Select, select.apply (.condition step) = select.apply (.condition other)
  update : ∀ update : Update, update.apply (.condition step) = update.apply (.condition other)
  delete : ∀ delete : Delete, delete.apply (.condition step) = delete.apply (.condition other)
  query : ∀ query : TableQuery, query.apply (.condition step) = query.apply (.condition other)

namespace Conditions.Step

theorem actsAs_of_apply {step other : Conditions.Step}
    (happly : ∀ conditions : Conditions, conditions.apply step = conditions.apply other) :
    step.ActsAs other := by
  constructor
  case select =>
    intro select
    rw [Select.apply, Select.apply, happly]
  case update =>
    intro update
    rw [Update.apply, Update.apply, happly]
  case delete =>
    intro delete
    rw [Delete.apply, Delete.apply, happly]
  case query =>
    intro query
    rw [TableQuery.apply, TableQuery.apply, Select.apply, Select.apply, happly]

variable {text : String} (column : String) (operand : Operand)

/-- A condition with the text of an operator acts as one with the operator, on every builder. -/
theorem parsed_actsAs {operator : Operator} (hparse : Operator.parse text = .ok operator) :
    (parsed column text operand).ActsAs (compare column operator operand) := by
  apply actsAs_of_apply
  intro conditions
  change conditions.addParsed column text operand = .ok (conditions.add column operator operand)
  rw [addParsed, hparse]
  rfl

/-- A condition with a text that is no operator is refused at once by every builder. -/
theorem parsed_refusedAtOnce {error : Error} (hparse : Operator.parse text = .error error) :
    (parsed column text operand).RefusedAtOnce error := by
  apply refusedAtOnce_of_apply
  intro conditions
  rw [apply, addParsed, hparse]
  rfl

end Conditions.Step

namespace Operator

/-- What a text is parsed as, and what a condition with it comes to. -/
structure Grammar (text : String) : Prop where
  ok_iff : ∀ operator, parse text = .ok operator ↔
    Text.trim text = operator.wireName ∨ operator.Spelling (normalized text)
  unknown : (∀ operator : Operator,
      ¬(Text.trim text = operator.wireName ∨ operator.Spelling (normalized text))) →
    parse text = .error (.unknownOperator (Text.trim text))
  padded : ∀ front back, Text.isBlankText front = true → Text.isBlankText back = true →
    parse (front ++ text ++ back) = parse text
  respelled : ∀ operator other, operator.Spelling (normalized text) →
    Text.Respelled text.toList other.toList → parse other = .ok operator
  pattern : ∀ operator ∈ [contains, startsWith, endsWith],
    parse text = .ok operator ↔ Text.trim text = operator.wireName
  again : ∀ operator, parse text = .ok operator → parse operator.wireName = .ok operator ∧
    ∃ same, parse operator.token = .ok same ∧ same.token = operator.token
  accepted : ∀ operator, parse text = .ok operator → ∀ column operand,
    (Conditions.Step.parsed column text operand).ActsAs (.compare column operator operand)
  refused : (∀ operator, parse text ≠ .ok operator) → ∀ column operand,
    (Conditions.Step.parsed column text operand).RefusedAtOnce
      (.unknownOperator (Text.trim text))

/-- What every text is parsed as: the operators are known by their names in bodies and by their
spellings alone, with any blanks around and between words and in letters of either case for the
spellings. -/
theorem grammar (text : String) : Grammar text := by
  have hunknown : (∀ operator, parse text ≠ .ok operator) →
      parse text = .error (.unknownOperator (Text.trim text)) := by
    intro hnone
    cases hparse : parse text with
    | ok operator => exact absurd hparse (hnone operator)
    | error error => rw [eq_of_parse_error hparse]
  constructor
  case ok_iff => exact fun operator => parse_eq_ok_iff
  case unknown =>
    intro hnone
    exact hunknown fun operator hparse => hnone operator (parse_eq_ok_iff.1 hparse)
  case padded =>
    intro front back hfront hback
    exact parse_eq_of_trim_eq (trim_padded hfront hback text)
  case respelled =>
    intro operator other hspelling hrespelled
    rw [normalized_eq_of_respelled hrespelled] at hspelling
    exact parse_eq_ok_iff.2 (Or.inr hspelling)
  case pattern =>
    intro operator hpattern
    rw [parse_eq_ok_iff, or_iff_left (not_spelling_of_pattern hpattern _)]
  case again => exact fun operator _ => ⟨parse_wireName operator, parse_token operator⟩
  case accepted =>
    exact fun operator hparse column operand =>
      Conditions.Step.parsed_actsAs column operand hparse
  case refused =>
    exact fun hnone column operand =>
      Conditions.Step.parsed_refusedAtOnce column operand (hunknown hnone)

/-- Small letters and more than one blank between the words. -/
example : parse "\t not  In\n" = .ok notIn := by decide

end Operator

end TwinQuery
