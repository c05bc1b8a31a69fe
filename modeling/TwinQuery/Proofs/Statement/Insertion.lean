import Mathlib.Data.List.Forall2
import Mathlib.Data.List.Induction
import TwinQuery.Proofs.Statement.Body
import TwinQuery.Proofs.Statement.Building
import TwinQuery.Proofs.Statement.Segments

/-!
# The rows of an insertion

Rows are given as values by column, in any order and a column perhaps more than once. The text, the
bindings and the JSON body of an insertion then hold the same rows: `Insert.carries_rows`. In the
text and the bindings every row has a place for every column of any row, and the place of a column
that a row does not give holds NULL; the body leaves it out.
-/

namespace TwinQuery

/-! ## Distinct names -/

theorem nodup_eraseDups (names : List String) : names.eraseDups.Nodup := by
  induction names using List.reverseRecOn with
  | nil => exact List.nodup_nil
  | append_singleton names name ih =>
      rw [eraseDups_concat]
      split
      next => exact ih
      next hnew =>
        refine List.nodup_append.2 ⟨ih, List.nodup_singleton name, ?_⟩
        rintro held hheld other hother rfl
        rw [List.mem_singleton.1 hother, List.mem_eraseDups] at hheld
        exact hnew hheld

namespace Insert

/-- Which names are repeated behind some names depends on the distinct ones of these alone. -/
theorem eraseDups_append_of_eq {first second : List String}
    (heq : first.eraseDups = second.eraseDups) (names : List String) :
    (first ++ names).eraseDups = (second ++ names).eraseDups := by
  rw [← foldl_addNew, heq, foldl_addNew]

theorem eraseDups_append_eraseDups (before names : List String) :
    (before ++ names.eraseDups).eraseDups = (before ++ names).eraseDups := by
  induction names using List.reverseRecOn with
  | nil => rfl
  | append_singleton names name ih =>
      rw [← List.append_assoc, eraseDups_concat (before ++ names), eraseDups_concat names]
      by_cases hheld : name ∈ names
      · rw [if_pos hheld, if_pos (List.mem_append_right before hheld), ih]
      · rw [if_neg hheld, ← List.append_assoc, eraseDups_concat, ih]
        simp only [List.mem_append, List.mem_eraseDups]

/-- Repetitions within a part do not matter when those across the parts are left out. -/
theorem eraseDups_flatMap_eraseDups {α : Type} (names : α → List String) (parts : List α)
    (before : List String) :
    (before ++ parts.flatMap fun part => (names part).eraseDups).eraseDups =
      (before ++ parts.flatMap names).eraseDups := by
  induction parts generalizing before with
  | nil => rfl
  | cons part rest ih =>
      rw [List.flatMap_cons, List.flatMap_cons, ← List.append_assoc, ← List.append_assoc, ih]
      exact eraseDups_append_of_eq (eraseDups_append_eraseDups before (names part)) _

/-! ## The columns and the values of rows -/

/-- The columns of rows, each where it is first seen. -/
def firstSeen (rows : List (List (String × Scalar))) : List String :=
  (rows.flatten.map Prod.fst).eraseDups

/-- The last value that a row gives to a column. -/
def given? (row : List (String × Scalar)) (column : String) : Option Scalar :=
  row.reverse.lookup column

/-- What stands in the place of a column in a row. -/
def cell (row : List (String × Scalar)) (column : String) : Scalar :=
  (given? row column).getD .null

/-- The insertion holds the records that rows make. -/
def Holds (insert : Insert) (rows : List (List (String × Scalar))) : Prop :=
  insert.rows = rows.map OrderedMap.ofList

section Rows

variable {insert : Insert} {rows : List (List (String × Scalar))}

/-- The columns of an insertion are those of its rows, each where it is first seen. -/
theorem columns_eq_firstSeen (hrows : insert.Holds rows) : insert.columns = firstSeen rows := by
  have hcolumns : (rows.map OrderedMap.ofList).flatMap OrderedMap.columns =
      rows.flatMap fun row => (row.map Prod.fst).eraseDups := by
    rw [List.flatMap_map]
    simp only [OrderedMap.columns_ofList]
  have hnames : rows.flatten.map Prod.fst = rows.flatMap fun row => row.map Prod.fst := by
    rw [List.map_flatten, List.flatMap_def]
  rw [columns_eq_eraseDups, hrows, hcolumns, firstSeen, hnames]
  exact eraseDups_flatMap_eraseDups _ rows []

/-- Rows that give values have columns. -/
theorem firstSeen_ne_nil (hne : rows ≠ []) (hvalues : ∀ row ∈ rows, row ≠ []) :
    firstSeen rows ≠ [] := by
  obtain ⟨row, rest, rfl⟩ := List.exists_cons_of_ne_nil hne
  obtain ⟨pair, pairs, rfl⟩ := List.exists_cons_of_ne_nil (hvalues row List.mem_cons_self)
  have hmem : pair.1 ∈ firstSeen ((pair :: pairs) :: rest) := by
    simp [firstSeen]
  exact List.ne_nil_of_mem hmem

theorem fault?_eq_none (hrows : insert.Holds rows) (hvalues : ∀ row ∈ rows, row ≠ []) :
    insert.fault? = none := by
  have hany : insert.rows.any OrderedMap.isEmpty = false := by
    rw [hrows, List.any_map, List.any_eq_false]
    intro row hrow hempty
    have hcolumns : (OrderedMap.ofList row).columns = [] := by
      rw [OrderedMap.columns, List.isEmpty_iff.1 hempty, List.map_nil]
    rw [OrderedMap.columns_ofList] at hcolumns
    obtain ⟨pair, pairs, rfl⟩ := List.exists_cons_of_ne_nil (hvalues row hrow)
    rw [List.map_cons, List.eraseDups_cons] at hcolumns
    exact List.cons_ne_nil _ _ hcolumns
  rw [fault?, hany]
  rfl

end Rows

end Insert

/-! ## Texts of rows -/

theorem Template.values_joined (separator : String) (parts : List Template) :
    values (joined separator parts) = parts.flatMap values := by
  induction parts with
  | nil => rfl
  | cons part rest ih =>
      cases rest with
      | nil => simp [joined]
      | cons following rest =>
          rw [joined, values_append, List.flatMap_cons, ← ih]
          rfl

namespace Bindings

def texts (bindings : Bindings) : List Template → List String
  | [] => []
  | part :: rest => (bindings.fill part).1 :: (bindings.fill part).2.texts rest

theorem fst_fill_text (bindings : Bindings) (fixed : String) (rest : Template) :
    (bindings.fill (.text fixed :: rest)).1 = fixed ++ (bindings.fill rest).1 := rfl

/-- Joined parts are filled one after another, with the separator between their texts. -/
theorem fst_fill_joined (bindings : Bindings) (separator : String) (parts : List Template) :
    (bindings.fill (Template.joined separator parts)).1 =
      separator.intercalate (bindings.texts parts) := by
  induction parts generalizing bindings with
  | nil => rfl
  | cons part rest ih =>
      cases rest with
      | nil => simp [Template.joined, texts]
      | cons following rest =>
          have hrest := ih (bindings.fill part).2
          simp only [texts] at hrest
          simp only [Template.joined, texts, fill_append, String.intercalate_cons_cons, ← hrest]
          exact (String.append_assoc ..).symm

/-- Values one after another are written as literals, or as placeholders that count on. -/
theorem texts_slots (bindings : Bindings) (values : List Scalar) :
    bindings.texts (values.map fun value => [.slot value]) =
      bindings.style.placeholders bindings.values.length values := by
  induction values generalizing bindings with
  | nil =>
      cases hstyle : bindings.style with
      | inline => simp [texts, PlaceholderStyle.placeholders]
      | numbered => simp [texts, PlaceholderStyle.placeholders]
  | cons value rest ih =>
      have hslot : bindings.fill [.slot value] = bindings.bind value :=
        Prod.ext (String.append_empty ..) rfl
      rw [List.map_cons, texts, hslot, ih, placeholders_cons]
      rfl

end Bindings

namespace Insert

def places (columns : List String) (record : Record) : List Scalar :=
  columns.map fun column => (record.get? column).getD .null

theorem tuple_eq (columns : List String) (record : Record) :
    tuple columns record =
      [.text "("] ++ Template.joined ", " ((places columns record).map fun value =>
        [.slot value]) ++ [.text ")"] := by
  rw [tuple, places, List.map_map]
  rfl

theorem values_tuple (columns : List String) (record : Record) :
    (tuple columns record).values = places columns record := by
  rw [tuple_eq, Template.values_append, Template.values_append, Template.values_joined,
    List.flatMap_map]
  simp [Template.values]

def rowText (entries : List String) : String :=
  "(" ++ ", ".intercalate entries ++ ")"

/-- A row is written as what stands for its values, between parentheses. -/
theorem fst_fill_tuple (bindings : Bindings) (columns : List String) (record : Record) :
    (bindings.fill (tuple columns record)).1 =
      rowText (bindings.style.placeholders bindings.values.length (places columns record)) := by
  have hslots := bindings.fst_fill_joined ", " ((places columns record).map fun value =>
    [.slot value])
  rw [Bindings.texts_slots] at hslots
  rw [tuple_eq, rowText, ← hslots]
  simp [Bindings.fill, Bindings.fill_append, String.append_assoc]

/-- Every row takes as many places as there are columns. -/
theorem texts_tuples (bindings : Bindings) (columns : List String) (records : List Record) :
    bindings.texts (records.map (tuple columns)) =
      records.mapIdx fun i record => rowText (bindings.style.placeholders
        (bindings.values.length + i * columns.length) (places columns record)) := by
  induction records generalizing bindings with
  | nil => rfl
  | cons record rest ih =>
      have hstyle : (bindings.fill (tuple columns record)).2.style = bindings.style :=
        Bindings.style_fill _ _
      have hplaces : (bindings.fill (tuple columns record)).2.values.length =
          bindings.values.length + columns.length := by
        rw [Bindings.values_fill, List.length_append, values_tuple, places, List.length_map]
      rw [List.map_cons, Bindings.texts, ih, fst_fill_tuple, hstyle, hplaces, List.mapIdx_cons,
        Nat.zero_mul, Nat.add_zero]
      congr 2
      funext i later
      rw [Nat.succ_mul, Nat.add_assoc, Nat.add_comm columns.length]

/-- The text of an insertion into a table with the given columns and the given texts in its rows. -/
def written (table : TableName) (columns : List String) (rows : List (List String)) : String :=
  "INSERT INTO " ++ Identifier.quote table.text ++ " (" ++
    ", ".intercalate (columns.map Identifier.column) ++ ") VALUES " ++
    ", ".intercalate (rows.map rowText)

section Text

variable {insert : Insert} {rows : List (List (String × Scalar))}

/-- In the place of a column stands the value that the row gives to it last, and NULL where it gives
none. -/
theorem places_ofList (columns : List String) (row : List (String × Scalar)) :
    places columns (OrderedMap.ofList row) = columns.map (cell row) := by
  simp only [places, OrderedMap.get?_ofList]
  rfl

/-- The text of an insertion: its table, its columns and its rows. -/
theorem template_eq (hrows : insert.Holds rows) (hne : rows ≠ [])
    (hvalues : ∀ row ∈ rows, row ≠ []) :
    insert.template =
      .text ("INSERT INTO " ++ Identifier.quote insert.table.text ++ " (" ++
        ", ".intercalate ((firstSeen rows).map Identifier.column) ++ ") VALUES ") ::
        Template.joined ", " ((rows.map OrderedMap.ofList).map (tuple (firstSeen rows))) := by
  have hcolumns := firstSeen_ne_nil hne hvalues
  unfold template
  rw [columns_eq_firstSeen hrows, fault?_eq_none hrows hvalues, hrows]
  simp [hcolumns]

/-- In either style a row is written as what stands for its places. -/
theorem fst_fill_template (hrows : insert.Holds rows) (hne : rows ≠ [])
    (hvalues : ∀ row ∈ rows, row ≠ []) (bindings : Bindings) :
    (bindings.fill insert.template).1 =
      written insert.table (firstSeen rows) (rows.mapIdx fun i row =>
        bindings.style.placeholders (bindings.values.length + i * (firstSeen rows).length)
          ((firstSeen rows).map (cell row))) := by
  have htuples : bindings.texts ((rows.map OrderedMap.ofList).map (tuple (firstSeen rows))) =
      (rows.mapIdx fun i row => bindings.style.placeholders
        (bindings.values.length + i * (firstSeen rows).length)
          ((firstSeen rows).map (cell row))).map rowText := by
    rw [texts_tuples]
    apply List.ext_getElem?
    intro i
    simp only [List.getElem?_map, List.getElem?_mapIdx, Option.map_map, Function.comp_def,
      places_ofList]
  rw [template_eq hrows hne hvalues, Bindings.fst_fill_text, Bindings.fst_fill_joined, htuples]
  rfl

/-- The values of an insertion are those of its rows, row by row and in the order of the columns. -/
theorem values_template (hrows : insert.Holds rows) (hne : rows ≠ [])
    (hvalues : ∀ row ∈ rows, row ≠ []) :
    insert.template.values = rows.flatMap fun row => (firstSeen rows).map (cell row) := by
  rw [template_eq hrows hne hvalues, Template.values, Template.values_joined, List.flatMap_map,
    List.flatMap_map]
  simp only [values_tuple, places_ofList]

end Text

end Insert

/-- Where all parts have one length, an entry is found by its part and its place in it. -/
theorem getElem?_flatMap {α β : Type} {f : α → List β} {n : Nat} (hlength : ∀ a, (f a).length = n)
    (parts : List α) (i : Nat) {j : Nat} (hj : j < n) :
    (parts.flatMap f)[i * n + j]? = parts[i]?.bind fun part => (f part)[j]? := by
  induction parts generalizing i with
  | nil => rfl
  | cons part rest ih =>
      rw [List.flatMap_cons]
      cases i with
      | zero =>
          rw [List.getElem?_append_left (by rw [hlength]; omega), Nat.zero_mul, Nat.zero_add]
          rfl
      | succ i =>
          have hplace : (i + 1) * n + j - n = i * n + j := by
            rw [Nat.succ_mul]
            omega
          have hbehind : (f part).length ≤ (i + 1) * n + j := by
            rw [hlength, Nat.succ_mul]
            omega
          rw [List.getElem?_append_right hbehind, hlength, hplace, ih, List.getElem?_cons_succ]

/-! ## Bodies of rows -/

/-- The object of a record has the columns of the record and their values. -/
theorem Record.find?_fields (record : OrderedMap Scalar) (column : String) :
    Dictionary.find? column (Dictionary.ofList (Record.fields record)) =
      (record.get? column).map Scalar.toJson := by
  have hnodup : ((Record.fields record).map Prod.fst).Nodup := by
    rw [Record.fields, List.map_map]
    exact record.distinct
  rw [Dictionary.find?_ofList, lookup_reverse hnodup]
  exact Dictionary.find?_map column Scalar.toJson record.entries

theorem InsertRequest.field?_records (request : InsertRequest) :
    request.toJson.field? "records" = some (.array (request.records.map Record.toJson)) := by
  simp [InsertRequest.toJson, Json.field?_ofFields, Json.reverse_optional, List.lookup_append,
    Json.lookup_optional]

theorem InsertRequest.field?_options (request : InsertRequest) :
    request.toJson.field? "table_name" = some (.string request.table.text) ∧
      request.toJson.field? "on_conflict" =
        request.onConflict?.map (fun choice => .string choice.wireName) ∧
      request.toJson.field? "batch_size" = request.batchSize?.map unsignedJson := by
  refine ⟨?_, ?_, ?_⟩ <;>
    simp [InsertRequest.toJson, Json.field?_ofFields, Json.reverse_optional, List.lookup_append,
      Json.lookup_optional, List.lookup_cons]

namespace Insert

/-- An object has exactly the columns that a row gives, each with the value given last. -/
def IsObjectOf (row : List (String × Scalar)) (object : Json) : Prop :=
  ∃ fields, object = .object fields ∧ Dictionary.Sorted fields ∧
    ∀ column, Dictionary.find? column fields = (given? row column).map Scalar.toJson

/-- The record of a row is sent as an object of its columns with the values given last. -/
theorem isObjectOf_toJson (row : List (String × Scalar)) :
    IsObjectOf row (Record.toJson (OrderedMap.ofList row)) := by
  refine ⟨_, rfl, Dictionary.sorted_ofList _, fun column => ?_⟩
  rw [Record.find?_fields, OrderedMap.get?_ofList, given?]

/-- The text, the bindings and the body of an insertion hold the same rows. -/
structure Carries (insert : Insert) (table : TableName) (rows : List (List (String × Scalar))) :
    Prop where
  /-- No two columns of the header are written alike. -/
  header_nodup : ((firstSeen rows).map Identifier.column).Nodup
  /-- The literal in every place of the text is that of the value given last, or of NULL. -/
  sql_eq : (Statement.insert insert).sql = written table (firstSeen rows)
    (rows.map fun row => (firstSeen rows).map fun column => (cell row column).literal)
  /-- The numbers in the other style go through the places row by row. -/
  parameterized_eq : (Statement.insert insert).parameterized =
    (written table (firstSeen rows) (rows.mapIdx fun i _ =>
        (List.range (firstSeen rows).length).map fun j =>
          "$" ++ (i * (firstSeen rows).length + j + 1).repr),
      (Statement.insert insert).bindings)
  bindings_length : (Statement.insert insert).bindings.length =
    rows.length * (firstSeen rows).length
  /-- The bindings, too, go through the places row by row. -/
  binding_eq : ∀ i j row column, rows[i]? = some row → (firstSeen rows)[j]? = some column →
    (Statement.insert insert).bindings[i * (firstSeen rows).length + j]? = some (cell row column)
  /-- The body has one object for each row, in order. -/
  records_eq : ∃ body records, (Statement.insert insert).array = .ok body ∧
    body.field? "records" = some (.array records) ∧ List.Forall₂ IsObjectOf rows records

/-- Places are numbered one after another. -/
theorem placeholders_numbered (before : Nat) (values : List Scalar) :
    PlaceholderStyle.numbered.placeholders before values =
      (List.range values.length).map fun j => "$" ++ (before + j + 1).repr := by
  rw [PlaceholderStyle.placeholders, List.range'_eq_map_range, List.map_map]
  congr 1
  funext j
  rw [Function.comp_apply, Nat.add_right_comm]

section Carried

variable {insert : Insert} {rows : List (List (String × Scalar))}

theorem bindings_eq (hrows : insert.Holds rows) (hne : rows ≠ [])
    (hvalues : ∀ row ∈ rows, row ≠ []) :
    (Statement.insert insert).bindings = rows.flatMap fun row => (firstSeen rows).map (cell row) :=
  (Bindings.values_fill _ _).trans (values_template hrows hne hvalues)

/-- The body of an insertion has one record for each row, in their order. -/
theorem records_of_rows (hrows : insert.Holds rows) (hvalues : ∀ row ∈ rows, row ≠ []) :
    ∃ body records, (Statement.insert insert).array = .ok body ∧
      body.field? "records" = some (.array records) ∧ List.Forall₂ IsObjectOf rows records := by
  have hfault : (Statement.insert insert).fault? = none := fault?_eq_none hrows hvalues
  have harray : (Statement.insert insert).array = .ok insert.request.toJson := by
    rw [Statement.array, hfault]
    rfl
  refine ⟨_, _, harray, insert.request.field?_records, ?_⟩
  rw [request, hrows, List.forall₂_map_right_iff, List.forall₂_map_right_iff, List.forall₂_same]
  exact fun row _ => isObjectOf_toJson row

end Carried

/-- Whatever steps add the rows, and whatever values these give to which columns, the text, the
bindings and the body of the insertion carry them: no value is lost, repeated or moved to another
column or row. -/
theorem carries_rows (table : TableName) (steps : List Step)
    {rows : List (List (String × Scalar))} (hne : rows ≠ []) (hvalues : ∀ row ∈ rows, row ≠ [])
    (hsteps : steps.flatMap Step.added = rows.map OrderedMap.ofList) :
    (build table steps).Carries table rows := by
  have hrows : (build table steps).Holds rows := (rows_build table steps).trans hsteps
  have hbindings := bindings_eq hrows hne hvalues
  have htext := fst_fill_template hrows hne hvalues
  rw [table_build] at htext
  constructor
  case header_nodup => exact (nodup_eraseDups _).map Sql.column_injective
  case sql_eq =>
    refine (htext .inline).trans (congrArg _ (List.ext_getElem? fun i => ?_))
    rw [List.getElem?_mapIdx, List.getElem?_map]
    congr 1
    funext row
    exact List.map_map
  case parameterized_eq =>
    refine Prod.ext ((htext .numbered).trans (congrArg _ (List.ext_getElem? fun i => ?_))) ?_
    · rw [List.getElem?_mapIdx, List.getElem?_mapIdx]
      congr 1
      funext row
      refine (placeholders_numbered _ _).trans ?_
      simp only [Bindings.numbered, List.length_map, List.length_nil, Nat.zero_add]
    · exact (Bindings.values_fill _ Bindings.numbered).trans
        (Bindings.values_fill _ Bindings.inline).symm
  case bindings_length =>
    rw [hbindings]
    simp [List.length_flatMap]
  case binding_eq =>
    intro i j row column hrow hcolumn
    have hj : j < (firstSeen rows).length := (List.getElem?_eq_some_iff.1 hcolumn).1
    have hlength : ∀ row, ((firstSeen rows).map (cell row)).length = (firstSeen rows).length :=
      fun row => List.length_map _
    rw [hbindings, getElem?_flatMap hlength rows i hj, hrow, Option.bind_some, List.getElem?_map,
      hcolumn]
    rfl
  case records_eq => exact records_of_rows hrows hvalues

/-- A first row that sets a column twice, and a second one that has a column in common with it and
one of its own, added after a choice that the text does not show. -/
def overlapping : List (List (String × Scalar)) :=
  [[("b", .int 1), ("a.x", .text "it's"), ("b", .int 2)], [("c\"", .bool true), ("a.x", .null)]]

def overlappingSteps : List Step :=
  [.rows [OrderedMap.ofList [("b", .int 1), ("a.x", .text "it's"), ("b", .int 2)]], .batchSize 0,
    .rows [OrderedMap.ofList [("c\"", .bool true), ("a.x", .null)]]]

theorem carries_rows_overlapping : (build ⟨"t"⟩ overlappingSteps).Carries ⟨"t"⟩ overlapping :=
  carries_rows ⟨"t"⟩ overlappingSteps (by decide) (by decide) rfl

example : (Statement.insert (build ⟨"t"⟩ overlappingSteps)).sql =
    "INSERT INTO \"t\" (\"b\", \"a\".\"x\", \"c\"\"\") VALUES " ++
      "(2, 'it''s', NULL), (NULL, NULL, TRUE)" := by
  decide

end Insert

end TwinQuery
