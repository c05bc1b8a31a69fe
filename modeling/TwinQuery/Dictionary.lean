/-!
# Dictionaries

A dictionary holds at most one value for each name and keeps its entries in increasing order
of the names, compared by code points. Every JSON object, filter map and update map has this
order, so it is what a reader of their texts sees. `insert` changes the value of one name and of
no other and keeps the order.
-/

namespace TwinQuery

/-- Entries by name. The functions below keep the names in increasing order. -/
abbrev Dictionary (α : Type) := List (String × α)

namespace Dictionary

variable {α : Type}

/-- The names are in increasing order, so each stands once. -/
def Sorted (entries : Dictionary α) : Prop :=
  entries.Pairwise fun first second => first.1 < second.1

/-- Give a name a value, in place of the one it had. -/
def insert (name : String) (value : α) : Dictionary α → Dictionary α
  | [] => [(name, value)]
  | (key, held) :: rest =>
      if name < key then (name, value) :: (key, held) :: rest
      else if name = key then (name, value) :: rest
      else (key, held) :: insert name value rest

/-- The dictionary of a list of pairs, a later pair replacing an earlier one of its name. -/
def ofList (pairs : List (String × α)) : Dictionary α :=
  pairs.foldl (fun entries pair => insert pair.1 pair.2 entries) []

def find? (name : String) (entries : Dictionary α) : Option α :=
  entries.lookup name

def contains (name : String) (entries : Dictionary α) : Bool :=
  (find? name entries).isSome

def erase (name : String) (entries : Dictionary α) : Dictionary α :=
  entries.filter fun entry => entry.1 != name

/-! ## Entries after an operation -/

theorem find?_cons (name key : String) (value : α) (rest : Dictionary α) :
    find? name ((key, value) :: rest) = if name = key then some value else find? name rest := by
  by_cases h : name = key
  · simp [find?, h]
  · have hbeq : (name == key) = false := by simpa using h
    simp [find?, List.lookup_cons, h, hbeq]

/-- Giving a name a value changes the value of that name and of no other. -/
theorem find?_insert (other name : String) (value : α) (entries : Dictionary α) :
    find? other (insert name value entries) =
      if other = name then some value else find? other entries := by
  induction entries with
  | nil => exact find?_cons other name value []
  | cons entry rest ih =>
    obtain ⟨key, held⟩ := entry
    rw [insert]
    split
    · rw [find?_cons other name]
    · split
      · next _ hname =>
        subst hname
        rw [find?_cons, find?_cons]
        split <;> rfl
      · next _ hname =>
        rw [find?_cons, find?_cons, ih]
        by_cases h : other = key
        · subst h
          simp [Ne.symm hname]
        · simp [h]

theorem find?_erase_self (name : String) (entries : Dictionary α) :
    find? name (erase name entries) = none := by
  rw [find?, List.lookup_eq_none_iff]
  intro entry hentry
  have hkept := (List.mem_filter.1 hentry).2
  rw [bne_iff_ne] at hkept ⊢
  exact hkept.symm

/-- Taking a name out leaves the values of all others. -/
theorem find?_erase_of_ne {other name : String} (hne : other ≠ name) (entries : Dictionary α) :
    find? other (erase name entries) = find? other entries := by
  induction entries with
  | nil => rfl
  | cons entry rest ih =>
    obtain ⟨key, held⟩ := entry
    rw [erase] at ih ⊢
    by_cases hkey : key = name
    · rw [List.filter_cons_of_neg (by simp [hkey]), ih, find?_cons,
        if_neg fun heq => hne (heq.trans hkey)]
    · rw [List.filter_cons_of_pos (by simpa using hkey), find?_cons, find?_cons, ih]

/-- Giving a name a value brings in no entry but that one. -/
theorem mem_insert {name : String} {value : α} {entries : Dictionary α} {entry : String × α}
    (h : entry ∈ insert name value entries) : entry = (name, value) ∨ entry ∈ entries := by
  induction entries with
  | nil => exact Or.inl (List.mem_singleton.1 h)
  | cons first rest ih =>
    obtain ⟨key, held⟩ := first
    rw [insert] at h
    split at h
    · exact List.mem_cons.1 h
    · split at h
      · rcases List.mem_cons.1 h with same | later
        · exact Or.inl same
        · exact Or.inr (List.mem_cons_of_mem _ later)
      · rcases List.mem_cons.1 h with same | later
        · exact Or.inr (same ▸ List.mem_cons_self)
        · exact (ih later).imp_right (List.mem_cons_of_mem _)

/-- Giving a name a value keeps the names in increasing order. -/
theorem sorted_insert (name : String) (value : α) {entries : Dictionary α} (h : Sorted entries) :
    Sorted (insert name value entries) := by
  induction entries with
  | nil => exact List.pairwise_singleton _ _
  | cons entry rest ih =>
    obtain ⟨key, held⟩ := entry
    obtain ⟨hfirst, hrest⟩ := List.pairwise_cons.1 h
    rw [insert]
    split
    · next hlt =>
      refine List.pairwise_cons.2 ⟨fun later hlater => ?_, h⟩
      rcases List.mem_cons.1 hlater with same | behind
      · exact same ▸ hlt
      · exact String.lt_trans hlt (hfirst later behind)
    · split
      · next _ heq =>
        subst heq
        exact List.pairwise_cons.2 ⟨hfirst, hrest⟩
      · next hlt hne =>
        refine List.pairwise_cons.2 ⟨fun later hlater => ?_, ih hrest⟩
        rcases mem_insert hlater with same | behind
        · rw [same]
          exact Decidable.byContradiction fun hnot => hne (String.le_antisymm hnot hlt)
        · exact hfirst later behind

/-- A dictionary made of pairs in any order is sorted. -/
theorem sorted_ofList (pairs : List (String × α)) : Sorted (ofList pairs) := by
  suffices h : ∀ entries : Dictionary α, Sorted entries →
      Sorted (pairs.foldl (fun entries pair => insert pair.1 pair.2 entries) entries) from
    h [] List.Pairwise.nil
  induction pairs with
  | nil => exact fun _ h => h
  | cons pair rest ih => exact fun _ h => ih _ (sorted_insert pair.1 pair.2 h)

/-- Giving a new name a value adds one entry. -/
theorem perm_insert {name : String} (value : α) {entries : Dictionary α}
    (hnew : name ∉ entries.map Prod.fst) :
    (insert name value entries).Perm ((name, value) :: entries) := by
  induction entries with
  | nil => exact List.Perm.refl _
  | cons entry rest ih =>
    obtain ⟨key, held⟩ := entry
    rw [List.map_cons, List.mem_cons, not_or] at hnew
    rw [insert, if_neg hnew.1]
    split
    · exact List.Perm.refl _
    · exact ((ih hnew.2).cons (key, held)).trans (List.Perm.swap (name, value) (key, held) rest)

/-- Pairs with distinct names are all kept. -/
theorem perm_ofList {pairs : List (String × α)} (hdistinct : (pairs.map Prod.fst).Nodup) :
    (ofList pairs).Perm pairs := by
  suffices h : ∀ entries : Dictionary α, ((pairs ++ entries).map Prod.fst).Nodup →
      (pairs.foldl (fun held pair => insert pair.1 pair.2 held) entries).Perm (pairs ++ entries) by
    simpa [ofList] using h [] (by simpa using hdistinct)
  clear hdistinct
  induction pairs with
  | nil => exact fun entries _ => List.Perm.refl entries
  | cons pair rest ih =>
    intro entries hdistinct
    have hnew : pair.1 ∉ (rest ++ entries).map Prod.fst := (List.nodup_cons.1 hdistinct).1
    rw [List.map_append, List.mem_append, not_or] at hnew
    have hinsert := perm_insert pair.2 hnew.2
    have hmoved : (rest ++ insert pair.1 pair.2 entries).Perm (pair :: (rest ++ entries)) :=
      (hinsert.append_left rest).trans List.perm_middle
    have hnames : ((rest ++ insert pair.1 pair.2 entries).map Prod.fst).Nodup :=
      (hmoved.map Prod.fst).nodup_iff.2 hdistinct
    exact (ih _ hnames).trans hmoved

/-! ## Entries in order -/

theorem mem_of_find? {name : String} {value : α} {entries : Dictionary α}
    (hfound : find? name entries = some value) : (name, value) ∈ entries := by
  obtain ⟨before, after, rfl, -⟩ := List.lookup_eq_some_iff.1 hfound
  exact List.mem_append_right before List.mem_cons_self

/-- Behind a name there is no name that is not greater. -/
theorem find?_eq_none_of_le {name key : String} {value : α} {rest : Dictionary α}
    (hsorted : Sorted ((key, value) :: rest)) (hle : name ≤ key) : find? name rest = none := by
  rw [Option.eq_none_iff_forall_ne_some]
  intro held hfound
  exact hle ((List.pairwise_cons.1 hsorted).1 _ (mem_of_find? hfound))

/-- Of two dictionaries with the same values the first names are the same. -/
theorem le_of_find?_eq {key other : String} {value held : α} {rest later : Dictionary α}
    (hsorted : Sorted ((key, value) :: rest))
    (heq : ∀ name, find? name ((key, value) :: rest) = find? name ((other, held) :: later)) :
    key ≤ other := by
  intro hlt
  have hne : other ≠ key := fun hsame => String.lt_irrefl key (hsame ▸ hlt)
  have hfound := heq other
  rw [find?_cons, if_neg hne, find?_eq_none_of_le hsorted (String.lt_asymm hlt), find?_cons,
    if_pos rfl] at hfound
  exact Option.some_ne_none held hfound.symm

/-- The entries are known from the values of the names. -/
theorem eq_of_find?_eq {first second : Dictionary α} (hfirst : Sorted first)
    (hsecond : Sorted second) (heq : ∀ name, find? name first = find? name second) :
    first = second := by
  have hnot : ∀ {key : String} {value : α} {rest : Dictionary α},
      ¬∀ name, find? name [] = find? name ((key, value) :: rest) := by
    intro key value rest hnone
    have hfound := hnone key
    rw [find?_cons, if_pos rfl] at hfound
    exact Option.some_ne_none value hfound.symm
  induction first generalizing second with
  | nil =>
      cases second with
      | nil => rfl
      | cons other later => exact absurd heq hnot
  | cons entry rest ih =>
      obtain ⟨key, value⟩ := entry
      cases second with
      | nil => exact absurd (fun name => (heq name).symm) hnot
      | cons other later =>
          obtain ⟨other, held⟩ := other
          obtain rfl : key = other := String.le_antisymm (le_of_find?_eq hfirst heq)
            (le_of_find?_eq hsecond fun name => (heq name).symm)
          have hvalue := heq key
          rw [find?_cons, find?_cons, if_pos rfl, if_pos rfl] at hvalue
          have hrest : rest = later := by
            refine ih (List.pairwise_cons.1 hfirst).2 (List.pairwise_cons.1 hsecond).2 ?_
            intro name
            by_cases hname : name = key
            · have hle : name ≤ key := hname ▸ String.lt_irrefl name
              rw [find?_eq_none_of_le hfirst hle, find?_eq_none_of_le hsecond hle]
            · have hfound := heq name
              rwa [find?_cons, find?_cons, if_neg hname, if_neg hname] at hfound
          rw [Option.some.inj hvalue, hrest]

end Dictionary

end TwinQuery
