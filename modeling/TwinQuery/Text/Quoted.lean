/-!
# Quoted text

A text is quoted by setting it between two quote characters and writing every quote character
inside it twice. The same rule with `"` writes identifiers and with a single quote writes
string literals. `scan` reads a quoted text back and returns what follows it: `scan_eq_some_iff`.
-/

namespace TwinQuery.Text.Quoted

/-- Write every quote character twice. -/
def encode (quote : Char) : List Char → List Char
  | [] => []
  | c :: rest =>
      if c = quote then quote :: quote :: encode quote rest else c :: encode quote rest

/-- Read up to the quote character that ends a quoted text, a doubled one standing for
itself. The answer is the text and what follows the closing quote, or nothing when no quote
character ends it. -/
def scan (quote : Char) : List Char → Option (List Char × List Char)
  | [] => none
  | [c] => if c = quote then some ([], []) else none
  | c :: d :: rest =>
      if c = quote then
        if d = quote then (scan quote rest).map fun (text, after) => (quote :: text, after)
        else some ([], d :: rest)
      else (scan quote (d :: rest)).map fun (text, after) => (c :: text, after)

theorem scan_cons_of_ne {quote c : Char} (h : c ≠ quote) (cs : List Char) :
    scan quote (c :: cs) = (scan quote cs).map fun (text, after) => (c :: text, after) := by
  cases cs with
  | nil => simp [scan, h]
  | cons d rest => simp [scan, h]

/-- Reading a quoted text back gives the text and stops at the quote character that ends it,
whatever follows, so long as that is no quote character. -/
theorem scan_encode (quote : Char) (text after : List Char) (h : after.head? ≠ some quote) :
    scan quote (encode quote text ++ quote :: after) = some (text, after) := by
  induction text with
  | nil =>
    cases after with
    | nil => simp [encode, scan]
    | cons c rest =>
      have hc : c ≠ quote := fun eq => h (congrArg some eq)
      simp [encode, scan, hc]
  | cons c rest ih =>
    by_cases hc : c = quote
    · subst hc
      simp [encode, scan, ih]
    · simp [encode, hc, scan_cons_of_ne hc, ih]

variable {quote : Char} {cs text after : List Char}

/-- What is read up to a closing quote character was quoted in front of it, and no further quote
character follows. -/
theorem eq_encode_of_scan (h : scan quote cs = some (text, after)) :
    cs = encode quote text ++ quote :: after ∧ after.head? ≠ some quote := by
  fun_induction scan quote cs generalizing text with
  | case1 => simp at h
  | case2 =>
      obtain ⟨rfl, rfl⟩ := Prod.mk.inj (Option.some.inj h)
      simp [encode]
  | case3 => simp at h
  | case4 rest ih =>
      -- a doubled quote character goes to the front of the text as one
      obtain ⟨⟨inner, left⟩, hinner, heq⟩ := Option.map_eq_some_iff.1 h
      obtain ⟨rfl, rfl⟩ := Prod.mk.inj heq
      obtain ⟨hrest, hafter⟩ := ih hinner
      refine ⟨?_, hafter⟩
      rw [encode, if_pos rfl, hrest]
      rfl
  | case5 d rest hd =>
      obtain ⟨rfl, rfl⟩ := Prod.mk.inj (Option.some.inj h)
      refine ⟨rfl, fun hhead => hd ?_⟩
      exact Option.some.inj hhead
  | case6 c d rest hc ih =>
      obtain ⟨⟨inner, left⟩, hinner, heq⟩ := Option.map_eq_some_iff.1 h
      obtain ⟨rfl, rfl⟩ := Prod.mk.inj heq
      obtain ⟨hrest, hafter⟩ := ih hinner
      refine ⟨?_, hafter⟩
      rw [encode, if_neg hc, hrest]
      rfl

/-- A quoted text is read exactly where it was written, in front of anything but another quote
character. -/
theorem scan_eq_some_iff :
    scan quote cs = some (text, after) ↔
      cs = encode quote text ++ quote :: after ∧ after.head? ≠ some quote := by
  refine ⟨eq_encode_of_scan, ?_⟩
  rintro ⟨rfl, hafter⟩
  exact scan_encode quote text after hafter

end TwinQuery.Text.Quoted

namespace TwinQuery.Text

def quoted (quote : Char) (s : String) : String :=
  String.ofList (quote :: (Quoted.encode quote s.toList ++ [quote]))

end TwinQuery.Text
