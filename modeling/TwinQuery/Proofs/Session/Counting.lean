import TwinQuery.Proofs.Decimal.Exact
import TwinQuery.Proofs.Session.Delegation
import TwinQuery.Proofs.Text.Words

/-!
# The number of a count

The number of a count is read from one value of the first row. Whole numbers and texts are counted
as the numbers that they denote or refused. Doubles are refused where they are negative, but one
with a fraction is cut and one that is too large is clamped, so that a number comes out which the
value does not denote. `TableQuery.count_denotes_or_cut` says that this is the only way to it.
-/

namespace TwinQuery

open SessionM Response

namespace Response

/-- The columns that the number of a count is looked for in, in this order. -/
def countNames : List String :=
  ["count", "COUNT(*)", "count(*)"]

/-- The value that the number of a count is read from. -/
inductive ReadsCount (row : Row) (value : Json) : Prop where
  /-- The row has one of the columns, and none of those before it. -/
  | named {before after : List String} {name : String}
      (hnames : countNames = before ++ name :: after)
      (hbefore : ∀ other ∈ before, Dictionary.find? other row = none)
      (hvalue : Dictionary.find? name row = some value)
  /-- The row has none of them, and no column in front of this one in their order. -/
  | first {name : String} (hnone : ∀ other ∈ countNames, Dictionary.find? other row = none)
      (hvalue : (name, value) ∈ row) (hfirst : ∀ entry ∈ row, name ≤ entry.1)

/-- A value denotes a number of 64 bits: as a whole number, as a double that is exactly the number,
or as a text of its digits, with blanks around them and a plus sign in front of them or without. -/
inductive Denotes : Json → UInt64 → Prop where
  | int (n : UInt64) : Denotes (.int n.toNat) n
  | float {x : Float} {n : UInt64} (hexact : Decimal.rational? x = some (n.toNat : ℚ)) :
      Denotes (.float x) n
  | text {s : String} {n : UInt64} {front plus digits back : List Char}
      (hfront : Text.Blanks front) (hback : Text.Blanks back) (hplus : plus = [] ∨ plus = ['+'])
      (hdigits : Decimal.Spells digits n.toNat 0)
      (htext : s.toList = front ++ (plus ++ digits) ++ back) : Denotes (.string s) n

/-- A double that is not negative and denotes no number of 64 bits, because it has a fraction or is
too large. -/
def Cut (value : Json) : Prop :=
  ∃ x, value = .float x ∧ 0.0 ≤ x ∧ ∀ n : UInt64, Decimal.rational? x ≠ some (n.toNat : ℚ)

/-- How a value is counted. -/
structure Counted (value : Json) (result : Except Error UInt64) : Prop where
  /-- The number is the one that the value denotes. -/
  ok_iff : ¬Cut value → ∀ n, result = .ok n ↔ Denotes value n
  refused : ¬Cut value → (∀ n, ¬Denotes value n) → ∃ reason, result = .error (.decode reason)
  /-- A number comes out that the value does not denote. -/
  invented : Cut value → ∃ n, result = .ok n ∧ ¬Denotes value n
  /-- A finite double is a rational number, which says whether the double is cut. If it is not
  negative, its fraction is dropped and the rest is clamped. -/
  float : ∀ x, value = .float x → x.isFinite = true → ∃ q, Decimal.rational? x = some q ∧
    (Cut value ↔ 0 ≤ q ∧ ∀ n : UInt64, q ≠ n.toNat) ∧
    (0 ≤ q → ∃ n, result = .ok n ∧ n.toNat = min ⌊q⌋₊ (2 ^ 64 - 1))

/-- What a count makes of the rows of an answer. -/
structure Counts (rows : List Row) (result : Except Error UInt64) : Prop where
  none : rows = [] → result = .ok 0
  empty : ∀ rest, rows = [] :: rest → ∃ reason, result = .error (.decode reason)
  /-- One value of the first row is read, and nothing else matters. -/
  value : ∀ row rest, rows = row :: rest → row ≠ [] → ∃ value, Counted value result ∧
    (Dictionary.Sorted row → ∀ other, ReadsCount row other ↔ other = value)
  /-- The name of the only column does not matter. -/
  single : ∀ name value rest, rows = [(name, value)] :: rest → Counted value result

/-! ## The value that is read -/

section Reading

variable {row : Row} {value : Json}

def countValue? (row : Row) : Option Json :=
  (countNames.findSome? fun name => Dictionary.find? name row).or (row.head?.map (·.2))

theorem countValue?_ne_none (hrow : row ≠ []) : countValue? row ≠ none := by
  obtain ⟨entry, rest, rfl⟩ := List.exists_cons_of_ne_nil hrow
  simp [countValue?]

theorem countValue?_single (name : String) (value : Json) :
    countValue? [(name, value)] = some value := by
  rw [countValue?, Option.or_eq_some_iff]
  cases hfound : countNames.findSome? fun other => Dictionary.find? other [(name, value)] with
  | none => exact Or.inr ⟨rfl, rfl⟩
  | some held =>
      obtain ⟨_, other, _, -, hheld, -⟩ := List.findSome?_eq_some_iff.1 hfound
      have hentry := List.mem_singleton.1 (Dictionary.mem_of_find? hheld)
      exact Or.inl (congrArg some (Prod.mk.inj hentry).2)

/-- In a row that is in order the first entry has the least name. -/
theorem countValue?_eq_some_iff (hsorted : Dictionary.Sorted row) :
    countValue? row = some value ↔ ReadsCount row value := by
  rw [countValue?, Option.or_eq_some_iff, List.findSome?_eq_some_iff, List.findSome?_eq_none_iff,
    Option.map_eq_some_iff]
  constructor
  · rintro (⟨before, name, after, hnames, hvalue, hbefore⟩ | ⟨hnone, ⟨name, held⟩, hhead, rfl⟩)
    · exact .named hnames hbefore hvalue
    · obtain ⟨rest, rfl⟩ := List.head?_eq_some_iff.1 hhead
      refine .first hnone List.mem_cons_self fun entry hentry => ?_
      rcases List.mem_cons.1 hentry with rfl | hrest
      · exact String.le_refl _
      · exact String.lt_asymm ((List.pairwise_cons.1 hsorted).1 entry hrest)
  · intro hreads
    cases hreads with
    | @named before after name hnames hbefore hvalue =>
        exact Or.inl ⟨before, name, after, hnames, hvalue, hbefore⟩
    | @first name hnone hvalue hfirst =>
        refine Or.inr ⟨hnone, (name, value), ?_, rfl⟩
        obtain ⟨entry, rest, rfl⟩ := List.exists_cons_of_ne_nil (List.ne_nil_of_mem hvalue)
        rcases List.mem_cons.1 hvalue with rfl | hrest
        · rfl
        · exact absurd ((List.pairwise_cons.1 hsorted).1 _ hrest)
            (hfirst entry List.mem_cons_self)

def countOf (value : Json) : Except Error UInt64 :=
  Rows.count [("count", value)]

theorem count_of_value (hvalue : countValue? row = some value) :
    Rows.count row = countOf value := by
  unfold countValue? countNames at hvalue
  unfold countOf Rows.count
  simp only [hvalue]
  rfl

end Reading

/-! ## Counting a value -/

/-- A whole number is counted exactly where it fits 64 bits without a sign. -/
theorem countOf_int {m : Int} {n : UInt64} : countOf (.int m) = .ok n ↔ Denotes (.int m) n := by
  have hdenotes : Denotes (.int m) n ↔ m = n.toNat := by
    constructor
    · intro h
      cases h
      rfl
    · rintro rfl
      exact .int n
  have hread : (Json.int m).unsigned64? = some n ↔ m = n.toNat := by
    cases m with
    | ofNat k =>
        rw [Json.unsigned64?, Decimal.bounded_eq_some_iff]
        exact Int.ofNat_inj.symm
    | negSucc k => simp [Json.unsigned64?]
  rw [hdenotes, ← hread]
  cases hfound : (Json.int m).unsigned64? with
  | none => simp [countOf, Rows.count, Dictionary.find?, hfound]
  | some count => simp [countOf, Rows.count, Dictionary.find?, hfound]

theorem unsigned64?_trimChars_eq_some_iff {s : String} {n : UInt64} :
    Decimal.unsigned64? (Text.trimChars s.toList) = some n ↔ Denotes (.string s) n := by
  rw [Decimal.unsigned64?_eq_some_iff]
  constructor
  · intro hspells
    obtain ⟨front, back, hfront, hback, htext⟩ := Text.exists_padded s.toList
    rcases hspells with hdigits | ⟨digits, hplus, hdigits⟩
    · exact .text hfront hback (Or.inl rfl) hdigits htext
    · rw [hplus] at htext
      exact .text hfront hback (Or.inr rfl) hdigits htext
  · intro hdenotes
    cases hdenotes with
    | @text _ _ front plus digits back hfront hback hplus hdigits htext =>
        have hfree : ∀ c ∈ plus ++ digits, Text.isBlank c = false := by
          intro c hc
          rcases List.mem_append.1 hc with hsign | hdigit
          · rcases hplus with rfl | rfl
            · simp at hsign
            · rw [List.mem_singleton.1 hsign]
              rfl
          · exact Text.isBlank_of_isDigit (hdigits.isDigit c hdigit)
        rw [htext, Text.trimChars_padded hfront hback, Text.trimChars_of_free hfree]
        rcases hplus with rfl | rfl
        · exact Or.inl hdigits
        · exact Or.inr ⟨digits, rfl, hdigits⟩

/-- A text is counted exactly where its digits denote a number of 64 bits. -/
theorem countOf_string {s : String} {n : UInt64} :
    countOf (.string s) = .ok n ↔ Denotes (.string s) n := by
  rw [← unsigned64?_trimChars_eq_some_iff]
  cases hfound : Decimal.unsigned64? (Text.trimChars s.toList) with
  | none => simp [countOf, Rows.count, Dictionary.find?, hfound]
  | some count => simp [countOf, Rows.count, Dictionary.find?, hfound]

section Doubles

variable {x : Float}

theorem countOf_float_of_le (hx : 0.0 ≤ x) : countOf (.float x) = .ok x.toUInt64 :=
  if_pos hx

/-- A negative double and what is no number are refused. -/
theorem countOf_float_of_not_le (hx : ¬0.0 ≤ x) (n : UInt64) : countOf (.float x) ≠ .ok n := by
  have herror : countOf (.float x) =
      .error (.decode ("invalid count value: " ++ (Json.float x).text)) := if_neg hx
  rw [herror]
  exact fun h => by cases h

/-- A double that is exactly a number of 64 bits is made that number. -/
theorem toUInt64_of_exact {n : UInt64} (hexact : Decimal.rational? x = some (n.toNat : ℚ)) :
    x.toUInt64 = n := by
  apply UInt64.toNat_inj.1
  rw [Decimal.toNat_toUInt64 hexact, Nat.floor_natCast]
  exact Nat.min_eq_left (Nat.le_sub_one_of_lt n.toNat_lt)

theorem zero_le_of_denotes {n : UInt64} (hdenotes : Denotes (.float x) n) : 0.0 ≤ x := by
  cases hdenotes with
  | float hexact => exact (Decimal.zero_le_iff_exact hexact).2 (Nat.cast_nonneg _)

/-- A double that is not cut is counted exactly where it denotes a number, and as that number. -/
theorem countOf_float (hcut : ¬Cut (.float x)) {n : UInt64} :
    countOf (.float x) = .ok n ↔ Denotes (.float x) n := by
  by_cases hx : 0.0 ≤ x
  · -- the double is not cut, so it is some number exactly
    have hsome : ∃ m : UInt64, Decimal.rational? x = some (m.toNat : ℚ) := by
      by_contra hnone
      exact hcut ⟨x, rfl, hx, fun m hexact => hnone ⟨m, hexact⟩⟩
    obtain ⟨m, hexact⟩ := hsome
    rw [countOf_float_of_le hx, toUInt64_of_exact hexact, Except.ok.injEq]
    constructor
    · rintro rfl
      exact .float hexact
    · intro hdenotes
      cases hdenotes with
      | float hother => rw [← toUInt64_of_exact hexact, toUInt64_of_exact hother]
  · exact iff_of_false (countOf_float_of_not_le hx n) fun hdenotes =>
      hx (zero_le_of_denotes hdenotes)

/-- The doubles that are cut are those that are not negative and no number of 64 bits. -/
theorem cut_float_iff {q : ℚ} (hexact : Decimal.rational? x = some q) :
    Cut (.float x) ↔ 0 ≤ q ∧ ∀ n : UInt64, q ≠ n.toNat := by
  constructor
  · rintro ⟨y, hy, hle, hnone⟩
    cases hy
    exact ⟨(Decimal.zero_le_iff_exact hexact).1 hle, fun n heq => hnone n (heq ▸ hexact)⟩
  · rintro ⟨hle, hnone⟩
    refine ⟨x, rfl, (Decimal.zero_le_iff_exact hexact).2 hle, fun n hother => hnone n ?_⟩
    exact Option.some.inj (hexact.symm.trans hother)

end Doubles

/-- A value that is not cut is counted as the number that it denotes, if there is one. -/
theorem countOf_eq_ok_iff {value : Json} (hcut : ¬Cut value) {n : UInt64} :
    countOf value = .ok n ↔ Denotes value n := by
  cases value with
  | int m => exact countOf_int
  | float x => exact countOf_float hcut
  | string s => exact countOf_string
  | _ => exact iff_of_false (fun h => by cases h) (fun h => by cases h)

/-- Every JSON value is counted as `Counted` says. -/
theorem counted_countOf (value : Json) : Counted value (countOf value) := by
  constructor
  case ok_iff => exact fun hcut n => countOf_eq_ok_iff hcut
  case refused =>
    intro hcut hnone
    cases hcount : countOf value with
    | ok n => exact absurd ((countOf_eq_ok_iff hcut).1 hcount) (hnone n)
    | error error =>
        obtain ⟨reason, rfl⟩ := Rows.eq_decode_of_count hcount
        exact ⟨reason, rfl⟩
  case invented =>
    rintro ⟨x, rfl, hle, hnone⟩
    refine ⟨_, countOf_float_of_le hle, fun hdenotes => ?_⟩
    cases hdenotes with
    | float hexact => exact hnone _ hexact
  case float =>
    rintro x rfl hfinite
    obtain ⟨q, hexact⟩ := Decimal.exists_rational hfinite
    refine ⟨q, hexact, cut_float_iff hexact, fun hq => ?_⟩
    exact ⟨_, countOf_float_of_le ((Decimal.zero_le_iff_exact hexact).2 hq),
      Decimal.toNat_toUInt64 hexact⟩

/-! ## Counting rows -/

/-- The rows of an answer are counted as `Counts` says. -/
theorem counts_counted (rows : Rows) : Counts rows.rows rows.counted := by
  have hcounted {row : Row} {rest : List Row} (hrows : rows.rows = row :: rest) :
      rows.counted = Rows.count row := by
    rw [Rows.counted, hrows]
    rfl
  constructor
  case none =>
    intro hrows
    rw [Rows.counted, hrows]
    rfl
  case empty =>
    intro rest hrows
    exact ⟨"count result has no columns", hcounted hrows⟩
  case value =>
    intro row rest hrows hrow
    obtain ⟨value, hvalue⟩ := Option.ne_none_iff_exists'.1 (countValue?_ne_none hrow)
    refine ⟨value, ?_, fun hsorted other => ?_⟩
    · rw [hcounted hrows, count_of_value hvalue]
      exact counted_countOf value
    · rw [← countValue?_eq_some_iff hsorted, hvalue, Option.some.injEq, eq_comm]
  case single =>
    intro name value rest hrows
    rw [hcounted hrows, count_of_value (countValue?_single name value)]
    exact counted_countOf value

end Response

namespace TableQuery

variable {σ : Type} [Service σ] {query : TableQuery} {session : Session σ}

/-- The text of a count is sent, never refused as blank. -/
theorem not_blank_countSql (hvalid : query.select.validate = .ok ()) :
    Text.isBlankText query.select.countSql ≠ true := by
  have hblank : ∀ text : String, ¬Text.isBlankText ("SELECT COUNT(*) FROM " ++ text) = true := by
    intro text
    simp [Text.isBlankText, Text.isBlank]
  rw [Select.countSql_of_valid hvalid, String.append_assoc]
  exact hblank _

/-- A valid query counts the rows that executing its text gives. -/
theorem count_of_answer {rows : Rows} (hvalid : query.select.validate = .ok ())
    (hanswer : session.answer query.select.countSql = .ok rows) :
    (query.count session).1 = rows.counted := by
  unfold count
  rw [hvalid]
  refine (congrArg Prod.fst (bind_apply Rows.counted Rows.counted_apply session)).trans ?_
  have hexecute := execute_of_not_blank (not_blank_countSql hvalid)
    (Bindings.inline.fill query.select.countTemplate).2.values session
  change ((execute query.select.countSql _ session).1.bind Rows.counted) = _
  rw [hexecute, hanswer]
  rfl

/-- Whatever rows the service answers a valid query with, no number is counted that they do not
hold, unless the value that it is read from is a double that is cut. -/
theorem count_denotes_or_cut {rows : Rows} (hvalid : query.select.validate = .ok ())
    (hanswer : session.answer query.select.countSql = .ok rows) :
    Counts rows.rows (query.count session).1 := by
  rw [count_of_answer hvalid hanswer]
  exact counts_counted rows

/-- A text with a plus sign and blanks, under a name that is not the first one looked for. -/
theorem count_denotes_or_cut_padded :
    let query : TableQuery := ⟨{ table := ⟨"users"⟩, conditions := {} }⟩
    let session := Answering.session
      [("rows", .array [.object [("COUNT(*)", .string " +12 ")]])]
    (query.count session).1 = .ok 12 := by
  intro query session
  have hvalid : query.select.validate = .ok () := rfl
  have hanswer : session.answer query.select.countSql =
      .ok (Rows.ofFields session.service.fields) := rfl
  have hcounts : Counts [[("COUNT(*)", .string " +12 ")]] (query.count session).1 :=
    count_denotes_or_cut hvalid hanswer
  have hcut : ¬Cut (.string " +12 ") := by
    rintro ⟨x, hx, -⟩
    cases hx
  have hblank : Text.Blanks [' '] := by simp [Text.Blanks, Text.isBlank]
  have hdigits : Decimal.Spells ['1', '2'] (12 : UInt64).toNat 0 := Decimal.spells_repr 12
  have htext : " +12 ".toList = [' '] ++ (['+'] ++ ['1', '2']) ++ [' '] := rfl
  exact ((hcounts.single _ _ _ rfl).ok_iff hcut 12).2
    (.text hblank hblank (Or.inr rfl) hdigits htext)

/-- Half a row is counted as none. -/
theorem count_of_half :
    let row : Row := [("count", .float 0.5)]
    let query : TableQuery := ⟨{ table := ⟨"users"⟩, conditions := {} }⟩
    let session := Answering.session [("rows", .array [.object row])]
    ReadsCount row (.float 0.5) ∧ (query.count session).1 = .ok 0 ∧ ¬Denotes (.float 0.5) 0 := by
  intro row query session
  have hsize : Decimal.magnitude? 0.5 = some ⟨2 ^ 52, -53, true⟩ := by decide
  have hexact : Decimal.rational? 0.5 = some (1 / 2) := by
    have hsign : Decimal.isNegative 0.5 = false := by decide
    rw [Decimal.rational?, hsize, hsign]
    norm_num
  have hvalid : query.select.validate = .ok () := rfl
  have hanswer : session.answer query.select.countSql =
      .ok (Rows.ofFields session.service.fields) := rfl
  have hcounted : (query.count session).1 = countOf (.float 0.5) := count_of_answer hvalid hanswer
  have hcut : (0.5 : Float).toUInt64 = 0 := by decide
  have hnames : countNames = [] ++ "count" :: ["COUNT(*)", "count(*)"] := rfl
  refine ⟨.named hnames (by simp) rfl, ?_, fun hdenotes => ?_⟩
  · rw [hcounted, countOf_float_of_le (by decide), hcut]
  · cases hdenotes with
    | float hzero =>
        rw [hexact] at hzero
        norm_num at hzero

end TableQuery

end TwinQuery
