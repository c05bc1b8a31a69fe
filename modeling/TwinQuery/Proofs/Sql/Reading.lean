import TwinQuery.Proofs.Sql.Token

/-!
# Reading text piece by piece

A space, a comma and a parenthesis end whatever token stands in front of them. `tokens_append`
says that a text which is read on its own is therefore read the same in front of a break: no
token grows across it, and what follows is read as if it stood alone. The rest of the module
reads the pieces that statements are made of.
-/

namespace TwinQuery.Sql

def isBreak (c : Char) : Bool :=
  c = ' ' || c = ',' || c = '(' || c = ')'

/-- A text continues no token in front of it: it is empty or begins with a break. -/
def Breaks (cs : List Char) : Prop :=
  ∀ c, cs.head? = some c → isBreak c = true

theorem breaks_nil : Breaks [] := by
  intro c hc
  simp at hc

theorem breaks_cons {c : Char} (hc : isBreak c = true) (cs : List Char) : Breaks (c :: cs) := by
  intro d hd
  rw [List.head?_cons] at hd
  exact Option.some.inj hd ▸ hc

theorem eq_of_isBreak {c : Char} (hc : isBreak c = true) :
    c = ' ' ∨ c = ',' ∨ c = '(' ∨ c = ')' := by
  simpa [isBreak, or_assoc] using hc

/-! ## No token grows across a break -/

section Append

variable {more : List Char}

/-- A run of characters that are no breaks does not grow across one. -/
theorem takeWhile_append_of_breaks {p : Char → Bool} (hp : ∀ c, isBreak c = true → p c = false)
    (hmore : Breaks more) (cs : List Char) : (cs ++ more).takeWhile p = cs.takeWhile p := by
  induction cs with
  | nil =>
      cases more with
      | nil => rfl
      | cons c rest =>
          have hc : p c = false := hp c (hmore c rfl)
          simp [hc]
  | cons c rest ih => simp [List.takeWhile_cons, ih]

theorem dropWhile_append_of_breaks {p : Char → Bool} (hp : ∀ c, isBreak c = true → p c = false)
    (hmore : Breaks more) (cs : List Char) :
    (cs ++ more).dropWhile p = cs.dropWhile p ++ more := by
  induction cs with
  | nil =>
      cases more with
      | nil => rfl
      | cons c rest =>
          have hc : p c = false := hp c (hmore c rfl)
          simp [hc]
  | cons c rest ih =>
      by_cases hc : p c = true
      · simp [hc, ih]
      · simp [hc]

theorem isDigit_of_isBreak (c : Char) (hc : isBreak c = true) : c.isDigit = false := by
  rcases eq_of_isBreak hc with rfl | rfl | rfl | rfl <;> decide

theorem isPlainRest_of_isBreak (c : Char) (hc : isBreak c = true) :
    Identifier.isPlainRest c = false := by
  rcases eq_of_isBreak hc with rfl | rfl | rfl | rfl <;> decide

theorem spanDigits_append (hmore : Breaks more) (cs : List Char) :
    Decimal.spanDigits (cs ++ more) =
      (cs.takeWhile Char.isDigit, cs.dropWhile Char.isDigit ++ more) := by
  rw [spanDigits_eq, takeWhile_append_of_breaks isDigit_of_isBreak hmore,
    dropWhile_append_of_breaks isDigit_of_isBreak hmore]

/-- The closing quote is found at the same place in front of a break. -/
theorem scan_append {quote : Char} {cs text after : List Char}
    (h : Text.Quoted.scan quote cs = some (text, after)) (hmore : Breaks more)
    (hquote : isBreak quote = false) :
    Text.Quoted.scan quote (cs ++ more) = some (text, after ++ more) := by
  obtain ⟨rfl, hafter⟩ := Text.Quoted.eq_encode_of_scan h
  -- what follows the closing quote, a break or what stood there before, does not double it
  have hhead : (after ++ more).head? ≠ some quote := by
    cases after with
    | nil =>
        intro hhead
        rw [hmore quote hhead] at hquote
        exact Bool.noConfusion hquote
    | cons c rest => exact hafter
  rw [List.append_assoc, List.cons_append]
  exact Text.Quoted.scan_encode quote text (after ++ more) hhead

theorem fraction?_append {cs digits after : List Char} (h : fraction? cs = some (digits, after))
    (hmore : Breaks more) : fraction? (cs ++ more) = some (digits, after ++ more) := by
  cases cs with
  | nil =>
      -- the digits ended the text, and a break is no point
      cases h
      cases more with
      | nil => rfl
      | cons c rest =>
          rcases eq_of_isBreak (hmore c rfl) with rfl | rfl | rfl | rfl <;> rfl
  | cons c rest =>
      rw [fraction?, spanDigits_eq] at h
      rw [List.cons_append, fraction?, spanDigits_append hmore]
      split at h
      next hpoint =>
        simp only at h ⊢
        rw [if_pos hpoint]
        split at h
        · simp at h
        next hdigits =>
          cases h
          rw [if_neg hdigits]
      next hpoint =>
        cases h
        rw [if_neg hpoint, List.cons_append]

theorem number?_append {negative : Bool} {cs after : List Char} {token : Token}
    (h : number? negative cs = some (token, after)) (hmore : Breaks more) :
    number? negative (cs ++ more) = some (token, after ++ more) := by
  unfold number? at h ⊢
  rw [spanDigits_append hmore]
  rw [spanDigits_eq] at h
  obtain ⟨⟨digits, left⟩, hfraction, hmap⟩ := Option.bind_eq_some_iff.1 h
  obtain ⟨n, hn, hpair⟩ := Option.map_eq_some_iff.1 hmap
  obtain ⟨rfl, rfl⟩ := Prod.mk.inj hpair
  simp only [fraction?_append hfraction hmore, Option.bind_some, hn, Option.map_some]

/-- A symbol does not grow across a break, since no long one ends in a break. -/
theorem symbol?_append {c : Char} {rest after : List Char} {token : Token}
    (h : symbol? c rest = some (token, after)) (hmore : Breaks more) :
    symbol? c (rest ++ more) = some (token, after ++ more) := by
  have hshort : ∀ later left : List Char, shortSymbol? c later = some (token, left) →
      shortSymbol? c (later ++ more) = some (token, left ++ more) := by
    intro later left hlater
    unfold shortSymbol? at hlater ⊢
    split at hlater
    next hsymbol =>
      cases hlater
      rw [if_pos hsymbol]
    next => simp at hlater
  cases rest with
  | nil =>
      cases more with
      | nil => simpa using h
      | cons d later =>
          -- a break completes no symbol of two characters
          have hlong : (c, d) ∉ longSymbols ∧ ¬(c = '-' ∧ d = '-') := by
            rcases eq_of_isBreak (hmore d rfl) with rfl | rfl | rfl | rfl <;> simp [longSymbols]
          rw [List.nil_append, symbol?, if_neg hlong.1, if_neg hlong.2]
          exact hshort [] after h
  | cons d later =>
      rw [symbol?] at h
      rw [List.cons_append, symbol?]
      split at h
      next hlong =>
        cases h
        rw [if_pos hlong]
      next hlong =>
        rw [if_neg hlong]
        split at h
        next => simp at h
        next hcomment =>
          rw [if_neg hcomment]
          exact hshort (d :: later) after h

/-- No token grows across a break. -/
theorem next_append {c : Char} {rest after : List Char} {token : Token}
    (h : next c rest = some (token, after)) (hmore : Breaks more) :
    next c (rest ++ more) = some (token, after ++ more) := by
  -- the branches depend on the first character alone, but for a minus sign in front of a digit
  unfold next at h ⊢
  split at h
  next hname =>
    obtain ⟨⟨text, left⟩, hscan, hpair⟩ := Option.map_eq_some_iff.1 h
    cases hpair
    rw [if_pos hname, scan_append hscan hmore rfl, Option.map_some]
  next hname =>
  rw [if_neg hname]
  split at h
  next hstring =>
    obtain ⟨⟨text, left⟩, hscan, hpair⟩ := Option.map_eq_some_iff.1 h
    cases hpair
    rw [if_pos hstring, scan_append hscan hmore rfl, Option.map_some]
  next hstring =>
  rw [if_neg hstring]
  split at h
  next hplaceholder =>
    rw [spanDigits_eq] at h
    obtain ⟨n, hn, hpair⟩ := Option.map_eq_some_iff.1 h
    cases hpair
    rw [if_pos hplaceholder, spanDigits_append hmore]
    simp only [hn, Option.map_some]
  next hplaceholder =>
  rw [if_neg hplaceholder]
  split at h
  next hdigit =>
    rw [if_pos hdigit]
    exact number?_append h hmore
  next hdigit =>
  rw [if_neg hdigit]
  split at h
  next hminus =>
    have hhead : c = '-' ∧ (rest ++ more).head?.any Char.isDigit := by
      refine ⟨hminus.1, ?_⟩
      cases rest with
      | nil => simp at hminus
      | cons d later => simpa using hminus.2
    rw [if_pos hhead]
    exact number?_append h hmore
  next hminus =>
  have hhead : ¬(c = '-' ∧ (rest ++ more).head?.any Char.isDigit) := by
    rintro ⟨hc, hany⟩
    cases rest with
    | cons d later => exact hminus ⟨hc, by simpa using hany⟩
    | nil =>
        cases more with
        | nil => simp at hany
        | cons d later =>
            have hd : d.isDigit = true := by simpa using hany
            rw [isDigit_of_isBreak d (hmore d rfl)] at hd
            exact Bool.noConfusion hd
  rw [if_neg hhead]
  split at h
  next hword =>
    cases h
    rw [if_pos hword, takeWhile_append_of_breaks isPlainRest_of_isBreak hmore,
      dropWhile_append_of_breaks isPlainRest_of_isBreak hmore]
  next hword =>
    rw [if_neg hword]
    exact symbol?_append h hmore

end Append

/-- A text that is read on its own is read the same in front of a break, and what follows it is
read as if it stood alone. -/
theorem tokens_append {first second : List Char} {read : List Token}
    (hfirst : tokens first = some read) (hsecond : Breaks second) :
    tokens (first ++ second) = (tokens second).map fun later => read ++ later := by
  -- along the reader: every token that it finds is found again in front of the break
  fun_induction tokens first generalizing read with
  | case1 =>
      cases hfirst
      simp
  | case2 rest ih => rw [List.cons_append, tokens_space, ih hfirst]
  | case3 => simp at hfirst
  | case4 c rest hspace token after hnext ih =>
      obtain ⟨later, hlater, rfl⟩ := Option.map_eq_some_iff.1 hfirst
      rw [List.cons_append, tokens_of_next hspace (next_append hnext hsecond), ih hlater,
        Option.map_map]
      rfl

end TwinQuery.Sql
