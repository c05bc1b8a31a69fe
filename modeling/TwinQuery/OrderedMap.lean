/-!
# Maps in order of insertion

Rows and assignments keep their columns in the order in which each was first set. Setting a
column again replaces its value where it stands, so every column stands once.
-/

namespace TwinQuery

/-- A name behind others is a new one, unless it is among them. -/
theorem eraseDups_concat (names : List String) (name : String) :
    (names ++ [name]).eraseDups =
      if name ∈ names then names.eraseDups else names.eraseDups ++ [name] := by
  rw [List.eraseDups_append]
  by_cases h : name ∈ names
  · simp [List.removeAll, h]
  · simp [List.removeAll, h, List.eraseDups_cons]

/-- The entries with a column set: in place when it is there already, at the end otherwise. -/
def setEntry {α : Type} (column : String) (value : α) : List (String × α) → List (String × α)
  | [] => [(column, value)]
  | (held, old) :: rest =>
      if held = column then (column, value) :: rest else (held, old) :: setEntry column value rest

/-- A column that is set again keeps its place, and a new one comes last. -/
theorem map_fst_setEntry {α : Type} (column : String) (value : α)
    (entries : List (String × α)) :
    (setEntry column value entries).map Prod.fst =
      if column ∈ entries.map Prod.fst then entries.map Prod.fst
      else entries.map Prod.fst ++ [column] := by
  induction entries with
  | nil => simp [setEntry]
  | cons entry rest ih =>
      obtain ⟨held, old⟩ := entry
      by_cases h : held = column
      · simp [setEntry, h]
      · have hne : column ≠ held := fun eq => h eq.symm
        simp only [setEntry, h, if_false, List.map_cons, ih, List.mem_cons, hne, false_or]
        split
        · rfl
        · rw [List.cons_append]

/-- Setting a column changes what is found under that column alone. -/
theorem lookup_setEntry {α : Type} (other column : String) (value : α)
    (entries : List (String × α)) :
    (setEntry column value entries).lookup other =
      if other = column then some value else entries.lookup other := by
  induction entries with
  | nil =>
    by_cases h : other = column
    · simp [setEntry, h]
    · simp [setEntry, List.lookup_cons, h, beq_false_of_ne h]
  | cons entry rest ih =>
    obtain ⟨held, old⟩ := entry
    by_cases hheld : held = column
    · subst hheld
      by_cases h : other = held
      · simp [setEntry, h]
      · simp [setEntry, List.lookup_cons, h, beq_false_of_ne h]
    · by_cases h : other = held
      · subst h
        simp [setEntry, hheld]
      · simp [setEntry, hheld, List.lookup_cons, ih, beq_false_of_ne h]

theorem mem_setEntry {α : Type} {column : String} {value : α} {entries : List (String × α)}
    {entry : String × α} (hentry : entry ∈ setEntry column value entries) :
    entry = (column, value) ∨ entry ∈ entries := by
  induction entries with
  | nil => exact .inl (List.mem_singleton.1 hentry)
  | cons first rest ih =>
      obtain ⟨held, old⟩ := first
      rw [setEntry] at hentry
      split at hentry
      next => exact (List.mem_cons.1 hentry).imp_right (List.mem_cons_of_mem _)
      next =>
        rcases List.mem_cons.1 hentry with rfl | hlater
        · exact .inr List.mem_cons_self
        · exact (ih hlater).imp_right (List.mem_cons_of_mem _)

/-- Values by column, in the order in which each column was first set. -/
structure OrderedMap (α : Type) where
  entries : List (String × α)
  distinct : (entries.map Prod.fst).Nodup

namespace OrderedMap

variable {α : Type}

def empty : OrderedMap α :=
  ⟨[], by simp⟩

def set (map : OrderedMap α) (column : String) (value : α) : OrderedMap α where
  entries := setEntry column value map.entries
  distinct := by
    rw [map_fst_setEntry]
    split
    · exact map.distinct
    · rename_i h
      rw [List.nodup_append]
      refine ⟨map.distinct, by simp, ?_⟩
      intro held hheld other hother heq
      simp only [List.mem_singleton] at hother
      subst hother
      subst heq
      exact h hheld

def setAll (map : OrderedMap α) (pairs : List (String × α)) : OrderedMap α :=
  pairs.foldl (fun held pair => held.set pair.1 pair.2) map

def ofList (pairs : List (String × α)) : OrderedMap α :=
  empty.setAll pairs

def get? (map : OrderedMap α) (column : String) : Option α :=
  map.entries.lookup column

def columns (map : OrderedMap α) : List String :=
  map.entries.map Prod.fst

def size (map : OrderedMap α) : Nat :=
  map.entries.length

def isEmpty (map : OrderedMap α) : Bool :=
  map.entries.isEmpty

theorem get?_empty (column : String) : (empty : OrderedMap α).get? column = none := rfl

/-- Setting a column changes the value of that column and of no other. -/
theorem get?_set (map : OrderedMap α) (other column : String) (value : α) :
    (map.set column value).get? other = if other = column then some value else map.get? other :=
  lookup_setEntry other column value map.entries

/-- A column that is set again keeps its place; a new one comes last. -/
theorem columns_set (map : OrderedMap α) (column : String) (value : α) :
    (map.set column value).columns =
      if column ∈ map.columns then map.columns else map.columns ++ [column] :=
  map_fst_setEntry column value map.entries

theorem setAll_cons (map : OrderedMap α) (pair : String × α) (rest : List (String × α)) :
    map.setAll (pair :: rest) = (map.set pair.1 pair.2).setAll rest := rfl

theorem setAll_append (map : OrderedMap α) (first second : List (String × α)) :
    map.setAll (first ++ second) = (map.setAll first).setAll second :=
  List.foldl_append

/-- What is found after setting pairs is the last of them on the column, and what was there before
where none is. -/
theorem get?_setAll (map : OrderedMap α) (pairs : List (String × α)) (column : String) :
    (map.setAll pairs).get? column = (pairs.reverse.lookup column).or (map.get? column) := by
  induction pairs generalizing map with
  | nil => rfl
  | cons pair rest ih =>
    obtain ⟨other, value⟩ := pair
    rw [setAll_cons, ih, get?_set, List.reverse_cons, List.lookup_append, Option.or_assoc]
    congr 1
    by_cases h : column = other
    · simp [h]
    · simp [h, List.lookup_cons, beq_false_of_ne h]

/-- Of the values given to a column the last one is held. -/
theorem get?_ofList (pairs : List (String × α)) (column : String) :
    (ofList pairs).get? column = pairs.reverse.lookup column := by
  rw [ofList, get?_setAll, get?_empty, Option.or_none]

theorem mem_setAll {map : OrderedMap α} {pairs : List (String × α)}
    {entry : String × α} (hentry : entry ∈ (map.setAll pairs).entries) :
    entry ∈ pairs ∨ entry ∈ map.entries := by
  induction pairs generalizing map with
  | nil => exact .inr hentry
  | cons pair rest ih =>
      rcases ih hentry with hrest | hset
      · exact .inl (List.mem_cons_of_mem pair hrest)
      · rcases mem_setEntry hset with rfl | hheld
        · exact .inl List.mem_cons_self
        · exact .inr hheld

/-- A map holds for a column what it has an entry of. -/
theorem get?_of_mem {map : OrderedMap α} {column : String} {value : α}
    (hentry : (column, value) ∈ map.entries) : map.get? column = some value := by
  obtain ⟨before, after, hentries⟩ := List.append_of_mem hentry
  have hdistinct := map.distinct
  rw [hentries, List.map_append, List.nodup_append] at hdistinct
  refine List.lookup_eq_some_iff.2 ⟨before, after, hentries, fun earlier hearlier => ?_⟩
  rw [bne_iff_ne, ne_comm]
  exact hdistinct.2.2 _ (List.mem_map_of_mem hearlier) column List.mem_cons_self

/-- Setting pairs adds their columns in the order in which each is first met. -/
theorem columns_setAll (map : OrderedMap α) (pairs : List (String × α)) (before : List String)
    (hbefore : map.columns = before.eraseDups) :
    (map.setAll pairs).columns = (before ++ pairs.map Prod.fst).eraseDups := by
  induction pairs generalizing map before with
  | nil => rw [List.map_nil, List.append_nil, ← hbefore]; rfl
  | cons pair rest ih =>
    have hset : (map.set pair.1 pair.2).columns = (before ++ [pair.1]).eraseDups := by
      rw [columns_set, eraseDups_concat, hbefore]
      simp only [List.mem_eraseDups]
    rw [setAll_cons, ih _ _ hset, List.append_assoc, List.map_cons, List.singleton_append]

/-- Every column stands where it was first set. -/
theorem columns_ofList (pairs : List (String × α)) :
    (ofList pairs).columns = (pairs.map Prod.fst).eraseDups :=
  columns_setAll empty pairs [] rfl

end OrderedMap

end TwinQuery
