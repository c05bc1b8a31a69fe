import TwinQuery.Proofs.Decimal.Shortest
import TwinQuery.Proofs.Sql.Reading
import TwinQuery.Scalar

/-!
# The pieces of a statement

A piece either closes, so that it is read on its own and in front of a break (`Reads`), or it
leaves the text open for whatever comes next (`Leads`), as a piece that ends in a space does.
Names, literals and placeholders close; each is read as the one token that holds it, and a
column of plain parts as the tokens of its parts with points between them.
-/

namespace TwinQuery.Sql

/-- A text is read as tokens. -/
def Reads (text : String) (read : List Token) : Prop :=
  tokens text.toList = some read

/-- A text is read as tokens and what follows it as if it stood alone. -/
def Leads (text : String) (read : List Token) : Prop :=
  ∀ cs, tokens (text.toList ++ cs) = (tokens cs).map fun later => read ++ later

section Compose

variable {first second : String} {read later : List Token}

/-- Texts are read one after another where the second one breaks. -/
theorem Reads.append (hfirst : Reads first read) (hsecond : Reads second later)
    (hbreak : Breaks second.toList) : Reads (first ++ second) (read ++ later) := by
  unfold Reads at hfirst hsecond ⊢
  rw [String.toList_append, tokens_append hfirst hbreak, hsecond, Option.map_some]

theorem Leads.reads_append (hfirst : Leads first read) (hsecond : Reads second later) :
    Reads (first ++ second) (read ++ later) := by
  unfold Reads at hsecond ⊢
  rw [String.toList_append, hfirst, hsecond, Option.map_some]

theorem Leads.append (hfirst : Leads first read) (hsecond : Leads second later) :
    Leads (first ++ second) (read ++ later) := by
  intro cs
  rw [String.toList_append, List.append_assoc, hfirst, hsecond, Option.map_map]
  simp [Function.comp_def]

theorem Reads.leads_append (hfirst : Reads first read) (hsecond : Leads second later)
    (hbreak : ∀ cs, Breaks (second.toList ++ cs)) : Leads (first ++ second) (read ++ later) := by
  intro cs
  rw [String.toList_append, List.append_assoc, tokens_append hfirst (hbreak cs), hsecond,
    Option.map_map]
  simp [Function.comp_def]

end Compose

/-! ## Fixed text -/

theorem leads_space : Leads " " [] := by
  intro cs
  exact (tokens_space cs).trans (by simp)

/-- A fixed text that ends in a space leaves the text open. -/
theorem leads_of_eq_append_space {text : String} {read : List Token} (closed : String)
    (htext : text = closed ++ " ") (hclosed : tokens closed.toList = some read) :
    Leads text read := by
  have hleads := Reads.leads_append hclosed leads_space fun cs => breaks_cons rfl cs
  rwa [← htext, List.append_nil] at hleads

/-- A symbol that begins no longer one is read whatever follows it. -/
theorem leads_symbol {c : Char} (hc : c ∈ ['(', ')', ',', '.']) :
    Leads (String.singleton c) [.symbol (String.singleton c)] := by
  intro cs
  have hspace : c ≠ ' ' := by
    rintro rfl
    simp at hc
  have hshort : shortSymbol? c cs = some (.symbol (String.singleton c), cs) := by
    have hsymbol : c ∈ symbolChars := by
      simp only [List.mem_cons, List.not_mem_nil, or_false] at hc
      rcases hc with rfl | rfl | rfl | rfl <;> decide
    rw [shortSymbol?, if_pos hsymbol]
  -- none of these characters begins a symbol of two characters or a comment
  have hsymbol : symbol? c cs = some (.symbol (String.singleton c), cs) := by
    cases cs with
    | nil => exact hshort
    | cons d rest =>
        have hlong : (c, d) ∉ longSymbols ∧ ¬(c = '-' ∧ d = '-') := by
          simp only [List.mem_cons, List.not_mem_nil, or_false] at hc
          rcases hc with rfl | rfl | rfl | rfl <;> simp [longSymbols]
        rw [symbol?, if_neg hlong.1, if_neg hlong.2]
        exact hshort
  have hnext : next c cs = symbol? c cs := by
    simp only [List.mem_cons, List.not_mem_nil, or_false] at hc
    rcases hc with rfl | rfl | rfl | rfl <;> rfl
  have htokens := tokens_of_next hspace (hnext.trans hsymbol)
  simpa using htokens

theorem leads_comma : Leads ", " [.symbol ","] := by
  apply leads_of_eq_append_space "," rfl
  cbv

/-! ## Names -/

/-- The tokens of a column: its parts with points between them where all are plain, and
otherwise the whole name. -/
def columnTokens (name : String) : List Token :=
  if Identifier.isPath name then
    [.symbol "."].intercalate
      ((Identifier.dotted name.toList).map fun part => [.name (String.ofList part)])
  else [.name name]

/-- A quoted name is one token, unless another quote follows it. -/
theorem tokens_quote_append (name : String) (cs : List Char) (hcs : cs.head? ≠ some '"') :
    tokens ((Identifier.quote name).toList ++ cs) =
      (tokens cs).map fun later => .name name :: later := by
  have hscan := Text.Quoted.scan_encode '"' name.toList cs hcs
  have hnext : next '"' (Text.Quoted.encode '"' name.toList ++ '"' :: cs) =
      some (.name name, cs) := by
    rw [next, if_pos rfl, hscan]
    simp
  have htokens := tokens_of_next (by decide) hnext
  simpa [Identifier.quote, Text.quoted] using htokens

/-- A quoted name is read as the name it quotes. -/
theorem reads_quote (name : String) : Reads (Identifier.quote name) [.name name] := by
  have htokens := tokens_quote_append name [] (by simp)
  rw [List.append_nil, tokens_nil] at htokens
  exact htokens

/-- A point ends a quoted name as a break does. -/
theorem Reads.quote_dot_append (name : String) {text : String} {read : List Token}
    (htext : Reads text read) :
    Reads (Identifier.quote name ++ "." ++ text) (.name name :: .symbol "." :: read) := by
  have hdot : Reads ("." ++ text) (.symbol "." :: read) :=
    Leads.reads_append (leads_symbol (c := '.') (by simp)) htext
  unfold Reads at hdot ⊢
  have hhead : ("." ++ text).toList.head? ≠ some '"' := by simp
  rw [String.append_assoc, String.toList_append, tokens_quote_append name _ hhead, hdot,
    Option.map_some]

/-- Quoted parts with points between them are read as names with points between them. -/
theorem reads_parts {parts : List (List Char)} (hparts : parts ≠ []) :
    Reads (".".intercalate (parts.map fun part => Identifier.quote (String.ofList part)))
      ([.symbol "."].intercalate (parts.map fun part => [.name (String.ofList part)])) := by
  induction parts with
  | nil => exact absurd rfl hparts
  | cons part rest ih =>
      cases rest with
      | nil => simpa using reads_quote (String.ofList part)
      | cons following rest =>
          have hrest := (ih (by simp)).quote_dot_append (String.ofList part)
          simpa only [List.map_cons, String.intercalate_cons_cons, List.intercalate_cons_cons,
            List.cons_append, List.nil_append] using hrest

theorem dotted_ne_nil (cs : List Char) : Identifier.dotted cs ≠ [] := by
  cases cs with
  | nil => simp [Identifier.dotted]
  | cons c rest =>
      rw [Identifier.dotted]
      split
      · simp
      · split <;> simp

/-- A column is read as the tokens of its parts, or as one name. -/
theorem reads_column (name : String) : Reads (Identifier.column name) (columnTokens name) := by
  unfold Identifier.column columnTokens
  split
  · exact reads_parts (dotted_ne_nil name.toList)
  · exact reads_quote name

/-! ## Values -/

/-- A quoted string is one token. -/
theorem reads_string (s : String) : Reads (Text.quoted '\'' s) [.string s] := by
  have hscan := Text.Quoted.scan_encode '\'' s.toList [] (by simp)
  have hnext : next '\'' (Text.Quoted.encode '\'' s.toList ++ ['\'']) = some (.string s, []) := by
    rw [next, if_neg (by decide), if_pos rfl, hscan]
    simp
  have htokens := tokens_of_next (by decide) hnext
  rw [tokens_nil] at htokens
  simpa [Reads, Text.quoted] using htokens

theorem spanDigits_of_digits {digits : List Char} (hdigits : ∀ c ∈ digits, c.isDigit = true)
    (rest : List Char) (hrest : ∀ c, rest.head? = some c → c.isDigit = false) :
    Decimal.spanDigits (digits ++ rest) = (digits, rest) := by
  rw [spanDigits_eq, List.takeWhile_append_of_pos hdigits, List.dropWhile_append_of_pos hdigits]
  cases rest with
  | nil => simp
  | cons c later =>
      have hc : c.isDigit = false := hrest c rfl
      simp [hc]

/-- The spelling of a number is read as the number. -/
theorem number?_of_spells {digits : List Char} {significand places : Nat}
    (h : Decimal.Spells digits significand places) (negative : Bool) :
    number? negative digits = some (.number negative significand places, []) := by
  unfold number?
  cases h with
  | whole hdigits hne =>
      have hspan := spanDigits_of_digits hdigits [] (by simp)
      rw [List.append_nil] at hspan
      rw [hspan]
      simp only [fraction?, Option.bind_some, List.append_nil, Decimal.nat?_digits hdigits hne]
      rfl
  | @fraction whole fraction hwhole hne hfraction hmore =>
      -- the run of digits stops at the point, and a second run begins behind it
      have hspan := spanDigits_of_digits hwhole ('.' :: fraction) (by simp)
      have hdecimals := spanDigits_of_digits hfraction [] (by simp)
      rw [List.append_nil] at hdecimals
      have hall : ∀ c ∈ whole ++ fraction, c.isDigit = true := by
        intro c hc
        rcases List.mem_append.1 hc with hleft | hright
        · exact hwhole c hleft
        · exact hfraction c hright
      rw [hspan]
      simp only [fraction?, hdecimals, if_true]
      simp [hmore, Decimal.nat?_digits hall]

theorem next_of_isDigit {c : Char} (hc : c.isDigit = true) (rest : List Char) :
    next c rest = number? false (c :: rest) := by
  have hmark : ∀ d : Char, d.isDigit = false → c ≠ d := by
    rintro d hd rfl
    rw [hd] at hc
    exact Bool.noConfusion hc
  rw [next, if_neg (hmark '"' (by decide)), if_neg (hmark '\'' (by decide)),
    if_neg (hmark '$' (by decide)), if_pos hc]

/-- A spelling, after a minus sign or not, is read as the number it spells. -/
theorem tokens_of_spells {digits : List Char} {significand places : Nat}
    (h : Decimal.Spells digits significand places) (negative : Bool) :
    tokens (if negative then '-' :: digits else digits) =
      some [.number negative significand places] := by
  obtain ⟨c, rest, rfl, hc⟩ := h.exists_digit
  cases negative with
  | false =>
      have hspace : c ≠ ' ' := by
        rintro rfl
        exact absurd hc (by decide)
      have hnext := (next_of_isDigit hc rest).trans (number?_of_spells h false)
      simpa [tokens_nil] using tokens_of_next hspace hnext
  | true =>
      have hnext : next '-' (c :: rest) = some (.number true significand places, []) := by
        rw [← number?_of_spells h true]
        simp [next, hc]
      simpa [tokens_nil] using tokens_of_next (by decide) hnext

/-- The numeral of a natural number is read as that number. -/
theorem reads_repr (n : Nat) : Reads n.repr [.number false n 0] :=
  tokens_of_spells (Decimal.spells_repr n) false

/-- The numeral of a whole number is read as its sign and its size. -/
theorem reads_ofInt (n : Int) :
    Reads (Decimal.ofInt n) [.number (decide (n < 0)) n.natAbs 0] := by
  cases n with
  | ofNat n =>
      have hsign : decide (Int.ofNat n < 0) = false :=
        decide_eq_false (Int.not_lt.2 (Int.natCast_nonneg n))
      rw [hsign]
      exact reads_repr n
  | negSucc n =>
      have htokens := tokens_of_spells (Decimal.spells_repr (n + 1)) true
      simpa [Reads, Decimal.ofInt, Int.natAbs_negSucc, Int.negSucc_lt_zero] using htokens

/-- A placeholder is read as its number. -/
theorem reads_placeholder (n : Nat) : Reads ("$" ++ n.repr) [.placeholder n] := by
  have hdigits : ∀ c ∈ n.repr.toList, c.isDigit = true := fun _ => Decimal.isDigit_of_mem_repr
  have hspan := spanDigits_of_digits hdigits [] (by simp)
  have hnat := Decimal.nat?_digits hdigits (Decimal.toList_repr_ne_nil n)
  rw [Decimal.ofDigitChars_repr] at hnat
  have hnext : next '$' n.repr.toList = some (.placeholder n, []) := by
    rw [List.append_nil] at hspan
    rw [next, if_neg (by decide), if_neg (by decide), if_pos rfl, hspan]
    simp only [hnat, Option.map_some]
  have htokens := tokens_of_next (by decide) hnext
  rw [tokens_nil] at htokens
  unfold Reads
  rw [String.toList_append]
  exact htokens

/-- The token of a scalar: the number that it is or that its text shows, its string, or the word
for null and for the truth values. A double that is not finite is null. -/
def literalToken : Scalar → Token
  | .null => .word "NULL"
  | .bool true => .word "TRUE"
  | .bool false => .word "FALSE"
  | .int value => .number (decide (value.toInt < 0)) value.toInt.natAbs 0
  | .float value =>
      if value.isFinite then
        .number (Decimal.isNegative value) (Decimal.shownSize value).numerator
          (Decimal.shownSize value).places
      else .word "NULL"
  | .text value => .string value

/-- The number in the token of a finite double is read as the double. -/
theorem reaches_literalToken {x : Float} {size : Decimal.Magnitude} (hfinite : x.isFinite = true)
    (hsize : Decimal.magnitude? x = some size) :
    ∃ significand places,
      literalToken (.float x) = .number (Decimal.isNegative x) significand places ∧
        size.Reaches (significand / 10 ^ places) := by
  refine ⟨(Decimal.shownSize x).numerator, (Decimal.shownSize x).places, if_pos hfinite, ?_⟩
  rw [← Decimal.Scaled.value_eq]
  exact Decimal.reaches_shownSize hsize

/-- Different finite doubles have different tokens. -/
theorem literalToken_injective {x y : Float} (hx : x.isFinite = true) (hy : y.isFinite = true)
    (htoken : literalToken (.float x) = literalToken (.float y)) : x = y := by
  simp only [literalToken, if_pos hx, if_pos hy, Token.number.injEq] at htoken
  obtain ⟨hsign, hnumerator, hplaces⟩ := htoken
  refine Decimal.eq_of_shownSize hx hy hsign ?_
  rw [Decimal.Scaled.value_eq, Decimal.Scaled.value_eq, hnumerator, hplaces]

theorem reads_null : Reads "NULL" [.word "NULL"] := by
  unfold Reads
  cbv

theorem reads_true : Reads "TRUE" [.word "TRUE"] := by
  unfold Reads
  cbv

theorem reads_false : Reads "FALSE" [.word "FALSE"] := by
  unfold Reads
  cbv

/-- A literal is read as the one token of its scalar. -/
theorem reads_literal (value : Scalar) : Reads value.literal [literalToken value] := by
  cases value with
  | null => exact reads_null
  | bool value =>
      cases value with
      | true => exact reads_true
      | false => exact reads_false
  | int value => exact reads_ofInt value.toInt
  | float value =>
      simp only [Scalar.literal, literalToken]
      split
      next hfinite =>
        obtain ⟨digits, htext, hspells⟩ := Decimal.exists_spells_of_isFinite hfinite
        unfold Reads
        rw [htext]
        exact tokens_of_spells hspells (Decimal.isNegative value)
      next => exact reads_null
  | text value => exact reads_string value

end TwinQuery.Sql
