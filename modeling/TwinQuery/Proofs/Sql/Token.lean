import Mathlib.Data.List.TakeDrop
import TwinQuery.Decimal.Scaled
import TwinQuery.Identifier
import TwinQuery.Proofs.Decimal.Spelling
import TwinQuery.Text.Quoted

/-!
# Tokens of SQL text

A reader cuts SQL text into tokens without knowing who wrote it: names between double quotes,
strings between single quotes, numbered placeholders, numbers, words and symbols, with spaces
between them where they are wanted. Two minus signs begin a comment and a character of no token
cannot be read, so a text that is read holds neither a comment nor a second statement.
-/

namespace TwinQuery.Sql

/-- A token of SQL text. -/
inductive Token where
  /-- What stands between double quotes. -/
  | name (text : String)
  /-- What stands between single quotes. -/
  | string (text : String)
  /-- A dollar sign and a number. -/
  | placeholder (number : Nat)
  /-- `significand / 10 ^ places`, after a minus sign or not. -/
  | number (negative : Bool) (significand places : Nat)
  /-- A letter or an underscore with the letters, digits, underscores and dollar signs after it. -/
  | word (text : String)
  | symbol (text : String)
  deriving DecidableEq, Repr

def symbolChars : List Char :=
  ['=', '<', '>', '(', ')', ',', '.', '*', '+', '-']

def longSymbols : List (Char × Char) :=
  [('!', '='), ('<', '>'), ('<', '='), ('>', '=')]

def shortSymbol? (c : Char) (rest : List Char) : Option (Token × List Char) :=
  if c ∈ symbolChars then some (.symbol (String.singleton c), rest) else none

/-- The symbol that begins with a character, as long as possible. -/
def symbol? (c : Char) : List Char → Option (Token × List Char)
  | [] => shortSymbol? c []
  | d :: rest =>
      if (c, d) ∈ longSymbols then some (.symbol (String.ofList [c, d]), rest)
      else if c = '-' ∧ d = '-' then none
      else shortSymbol? c (d :: rest)

/-- The digits after a point, at least one, or none where there is no point. -/
def fraction? : List Char → Option (List Char × List Char)
  | [] => some ([], [])
  | c :: rest =>
      if c = '.' then
        let (digits, after) := Decimal.spanDigits rest
        if digits.isEmpty then none else some (digits, after)
      else some ([], c :: rest)

def number? (negative : Bool) (cs : List Char) : Option (Token × List Char) :=
  let (whole, rest) := Decimal.spanDigits cs
  (fraction? rest).bind fun (fraction, after) =>
    (Decimal.nat? (whole ++ fraction)).map fun n => (.number negative n fraction.length, after)

/-- The token that begins with a character, and what follows it. -/
def next (c : Char) (rest : List Char) : Option (Token × List Char) :=
  if c = '"' then
    (Text.Quoted.scan '"' rest).map fun (text, after) => (.name (String.ofList text), after)
  else if c = '\'' then
    (Text.Quoted.scan '\'' rest).map fun (text, after) => (.string (String.ofList text), after)
  else if c = '$' then
    let (digits, after) := Decimal.spanDigits rest
    (Decimal.nat? digits).map fun n => (.placeholder n, after)
  else if c.isDigit then number? false (c :: rest)
  else if c = '-' ∧ rest.head?.any Char.isDigit then number? true rest
  else if Identifier.isPlainStart c then
    some (.word (String.ofList (c :: rest.takeWhile Identifier.isPlainRest)),
      rest.dropWhile Identifier.isPlainRest)
  else symbol? c rest

/-! ## Every token takes up some of the text -/

theorem length_scan_lt {quote : Char} {cs text after : List Char}
    (h : Text.Quoted.scan quote cs = some (text, after)) : after.length < cs.length := by
  obtain ⟨rfl, -⟩ := Text.Quoted.eq_encode_of_scan h
  rw [List.length_append, List.length_cons]
  omega

theorem spanDigits_eq (cs : List Char) :
    Decimal.spanDigits cs = (cs.takeWhile Char.isDigit, cs.dropWhile Char.isDigit) :=
  List.span_eq_takeWhile_dropWhile Char.isDigit cs

theorem length_dropWhile_le (p : Char → Bool) (cs : List Char) :
    (cs.dropWhile p).length ≤ cs.length :=
  (List.dropWhile_suffix p).length_le

theorem length_fraction?_le {cs digits after : List Char}
    (h : fraction? cs = some (digits, after)) : after.length ≤ cs.length := by
  cases cs with
  | nil =>
      cases h
      exact Nat.le_refl _
  | cons c rest =>
      rw [fraction?, spanDigits_eq] at h
      split at h
      · simp only at h
        split at h
        · simp at h
        · cases h
          exact Nat.le_succ_of_le (length_dropWhile_le _ rest)
      · cases h
        exact Nat.le_refl _

theorem length_number?_le {negative : Bool} {cs after : List Char} {token : Token}
    (h : number? negative cs = some (token, after)) :
    after.length ≤ (cs.dropWhile Char.isDigit).length := by
  unfold number? at h
  rw [spanDigits_eq] at h
  obtain ⟨⟨digits, left⟩, hfraction, hmap⟩ := Option.bind_eq_some_iff.1 h
  obtain ⟨n, -, hpair⟩ := Option.map_eq_some_iff.1 hmap
  obtain ⟨-, rfl⟩ := Prod.mk.inj hpair
  exact length_fraction?_le hfraction

theorem length_symbol?_le {c : Char} {rest after : List Char} {token : Token}
    (h : symbol? c rest = some (token, after)) : after.length ≤ rest.length := by
  have hshort : shortSymbol? c rest = some (token, after) → after.length ≤ rest.length := by
    intro h
    unfold shortSymbol? at h
    split at h
    · obtain ⟨-, rfl⟩ := Prod.mk.inj (Option.some.inj h)
      exact Nat.le_refl _
    · simp at h
  cases rest with
  | nil => exact hshort h
  | cons d later =>
      rw [symbol?] at h
      split at h
      · obtain ⟨-, rfl⟩ := Prod.mk.inj (Option.some.inj h)
        exact Nat.le_succ _
      · split at h
        · simp at h
        · exact hshort h

/-- A token takes characters from the front alone, so reading tokens comes to an end. -/
theorem length_next_le {c : Char} {rest after : List Char} {token : Token}
    (h : next c rest = some (token, after)) : after.length ≤ rest.length := by
  unfold next at h
  split at h
  next =>
    obtain ⟨⟨text, left⟩, hscan, hpair⟩ := Option.map_eq_some_iff.1 h
    obtain ⟨-, rfl⟩ := Prod.mk.inj hpair
    exact Nat.le_of_lt (length_scan_lt hscan)
  split at h
  next =>
    obtain ⟨⟨text, left⟩, hscan, hpair⟩ := Option.map_eq_some_iff.1 h
    obtain ⟨-, rfl⟩ := Prod.mk.inj hpair
    exact Nat.le_of_lt (length_scan_lt hscan)
  split at h
  next =>
    rw [spanDigits_eq] at h
    obtain ⟨n, -, hpair⟩ := Option.map_eq_some_iff.1 h
    obtain ⟨-, rfl⟩ := Prod.mk.inj hpair
    exact length_dropWhile_le _ rest
  split at h
  next hdigit =>
    have hlength := length_number?_le h
    rw [List.dropWhile_cons_of_pos hdigit] at hlength
    exact Nat.le_trans hlength (length_dropWhile_le _ rest)
  split at h
  next => exact Nat.le_trans (length_number?_le h) (length_dropWhile_le _ rest)
  split at h
  next =>
    obtain ⟨-, rfl⟩ := Prod.mk.inj (Option.some.inj h)
    exact length_dropWhile_le _ rest
  next => exact length_symbol?_le h

/-- The tokens of a text, or nothing when some of it is part of no token. -/
def tokens : List Char → Option (List Token)
  | [] => some []
  | c :: rest =>
      if c = ' ' then tokens rest
      else
        match _h : next c rest with
        | none => none
        | some (token, after) => (tokens after).map fun later => token :: later
termination_by cs => cs.length
decreasing_by
  · simp
  · exact Nat.lt_succ_of_le (length_next_le _h)

theorem tokens_nil : tokens [] = some [] := by
  rw [tokens]

theorem tokens_space (rest : List Char) : tokens (' ' :: rest) = tokens rest := by
  rw [tokens, if_pos rfl]

/-- The tokens of a text are its first one and those of what follows it. -/
theorem tokens_of_next {c : Char} {rest after : List Char} {token : Token} (hspace : c ≠ ' ')
    (h : next c rest = some (token, after)) :
    tokens (c :: rest) = (tokens after).map fun later => token :: later := by
  rw [tokens, if_neg hspace]
  split
  next hnone => rw [hnone] at h; simp at h
  next found left hsome =>
    rw [hsome] at h
    obtain ⟨rfl, rfl⟩ := Prod.mk.inj (Option.some.inj h)
    rfl

end TwinQuery.Sql
