import TwinQuery.Request

/-!
# Inserting rows

An insert statement adds rows that may have different columns. The text gives every row all
columns that occur, in the order in which they were first seen, with NULL in the gaps; the
request body keeps each row as it is.
-/

namespace TwinQuery

structure Insert where
  table : TableName
  rows : List Record := []
  onConflict? : Option ConflictResolution := none
  batchSize? : Option UInt64 := none

namespace Insert

def ofTable (table : String) : Except Error Insert :=
  (TableName.ofText table).map fun table => { table }

def addRows (insert : Insert) (rows : List Record) : Insert :=
  { insert with rows := insert.rows ++ rows }

inductive Step where
  | rows (rows : List Record)
  | onConflict (choice : ConflictResolution)
  | batchSize (n : UInt64)

def apply (insert : Insert) : Step → Insert
  | .rows rows => insert.addRows rows
  | .onConflict choice => { insert with onConflict? := some choice }
  | .batchSize n => { insert with batchSize? := some n }

def addNew (columns : List String) (column : String) : List String :=
  if columns.contains column then columns else columns ++ [column]

/-- The columns of all rows, in the order in which they are first seen. -/
def columns (insert : Insert) : List String :=
  (insert.rows.flatMap OrderedMap.columns).foldl addNew []

theorem foldl_addNew (before names : List String) :
    names.foldl addNew before.eraseDups = (before ++ names).eraseDups := by
  induction names generalizing before with
  | nil => rw [List.foldl_nil, List.append_nil]
  | cons name rest ih =>
    have hadd : addNew before.eraseDups name = (before ++ [name]).eraseDups := by
      simp [addNew, eraseDups_concat]
    rw [List.foldl_cons, hadd, ih, List.append_assoc, List.singleton_append]

/-- The columns of an insertion are those of its rows one after another, without repetition. -/
theorem columns_eq_eraseDups (insert : Insert) :
    insert.columns = (insert.rows.flatMap OrderedMap.columns).eraseDups :=
  foldl_addNew [] _

/-- The fault of a row without columns. -/
def fault? (insert : Insert) : Option String :=
  if insert.rows.any OrderedMap.isEmpty then some "INSERT record has no values" else none

/-- The values of a row in the given columns, NULL where it has none. -/
def tuple (columns : List String) (row : Record) : Template :=
  .text "(" ::
    Template.joined ", " (columns.map fun column => [.slot ((row.get? column).getD .null)]) ++
    [.text ")"]

/-- The text of the statement, empty when there is nothing to insert or a row has no columns. -/
def template (insert : Insert) : Template :=
  let columns := insert.columns
  if columns.isEmpty || insert.fault?.isSome then []
  else
    let header := ", ".intercalate (columns.map Identifier.column)
    .text ("INSERT INTO " ++ Identifier.quote insert.table.text ++ " (" ++ header ++ ") VALUES ") ::
      Template.joined ", " (insert.rows.map (tuple columns))

def request (insert : Insert) : InsertRequest :=
  { table := insert.table
    records := insert.rows
    onConflict? := insert.onConflict?
    batchSize? := insert.batchSize? }

/-- Refuse a statement without values, with a row that has none, or with batches of no rows. -/
def validate (insert : Insert) : Except Error Unit :=
  if insert.rows.all OrderedMap.isEmpty then .error (.emptyStatement "INSERT without values")
  else
    match insert.rows.findIdx? OrderedMap.isEmpty with
    | some i => .error (.validation ("record " ++ i.repr ++ " has no values"))
    | none =>
        if insert.batchSize? = some 0 then .error (.validation "batch_size must be at least 1")
        else .ok ()

end Insert

end TwinQuery
