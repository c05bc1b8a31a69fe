import TwinQuery.Request

/-!
# Reading rows

A select statement reads columns of the rows that meet its conditions, in a sort order, and of
these a page.
-/

namespace TwinQuery

structure Select where
  table : TableName
  /-- The projection, `*` unless columns are chosen. -/
  columns : List String := ["*"]
  conditions : Conditions := {}
  sort : List SortField := []
  limit? : Option UInt64 := none
  offset? : Option UInt64 := none

namespace Select

/-- Every column of every row of a table. -/
def ofTable (table : String) : Except Error Select :=
  (TableName.ofText table).map fun table => { table }

/-- Whether the projection is `*` alone. -/
def isAll (select : Select) : Bool :=
  match select.columns with
  | [column] => column == "*"
  | _ => false

/-- Choose the columns. No columns stand for `*`. -/
def project (select : Select) (columns : List String) : Select :=
  { select with columns := if columns.isEmpty then ["*"] else columns }

/-- Choose one column more. The first one chosen takes the place of `*`. -/
def addColumn (select : Select) (column : String) : Select :=
  { select with columns := if select.isAll then [column] else select.columns ++ [column] }

def orderBy (select : Select) (column : String) (direction : SortDirection) : Select :=
  { select with sort := select.sort ++ [⟨column, direction⟩] }

def withLimit (select : Select) (n : UInt64) : Select :=
  { select with limit? := some n }

def withOffset (select : Select) (n : UInt64) : Select :=
  { select with offset? := some n }

/-- The product of two numbers, or the largest number of 64 bits where it is larger. -/
def saturatingMul (a b : UInt64) : UInt64 :=
  if a.toNat * b.toNat < UInt64.size then a * b else UInt64.ofNat (UInt64.size - 1)

/-- Read one page. Pages are counted from one and hold at least one row; a smaller number
counts as one. -/
def paginate (select : Select) (page perPage : UInt64) : Select :=
  let page := max page 1
  let size := max perPage 1
  { select with limit? := some size, offset? := some (saturatingMul (page - 1) size) }

inductive Step where
  | project (columns : List String)
  | addColumn (column : String)
  | condition (step : Conditions.Step)
  | orderBy (column : String) (direction : SortDirection)
  | limit (n : UInt64)
  | offset (n : UInt64)
  | paginate (page perPage : UInt64)

def apply (select : Select) : Step → Except Error Select
  | .project columns => .ok (select.project columns)
  | .addColumn column => .ok (select.addColumn column)
  | .condition step =>
      (select.conditions.apply step).map fun conditions => { select with conditions }
  | .orderBy column direction => .ok (select.orderBy column direction)
  | .limit n => .ok (select.withLimit n)
  | .offset n => .ok (select.withOffset n)
  | .paginate page perPage => .ok (select.paginate page perPage)

def fault? (select : Select) : Option String :=
  select.conditions.fault?

def sortTail (select : Select) : Template :=
  if select.sort.isEmpty then []
  else
    let entries := select.sort.map fun field =>
      Identifier.column field.column ++ " " ++ field.direction.keyword
    [.text (" ORDER BY " ++ ", ".intercalate entries)]

def numberTail (keyword : String) (n? : Option UInt64) : Template :=
  match n? with
  | none => []
  | some n => [.text (keyword ++ n.toNat.repr)]

/-- The text of the statement, empty when a fault was met. -/
def template (select : Select) : Template :=
  if select.fault?.isSome then []
  else
    let columns := ", ".intercalate (select.columns.map Identifier.projection)
    .text ("SELECT " ++ columns ++ " FROM " ++ Identifier.quote select.table.text) ::
      (select.conditions.whereTail ++ select.sortTail ++ numberTail " LIMIT " select.limit? ++
        numberTail " OFFSET " select.offset?)

/-- The text of the statement that counts the rows, whatever their order and the page. -/
def countTemplate (select : Select) : Template :=
  if select.fault?.isSome then []
  else
    .text ("SELECT COUNT(*) FROM " ++ Identifier.quote select.table.text) ::
      select.conditions.whereTail

def request (select : Select) : QueryRequest :=
  { table := select.table
    columns? := if select.isAll then none else some select.columns
    filters? :=
      if select.conditions.filters.isEmpty then none else some select.conditions.toDictionary
    sort? := if select.sort.isEmpty then none else some select.sort
    limit? := select.limit?
    offset? := select.offset? }

def validate (select : Select) : Except Error Unit :=
  match select.fault? with
  | some fault => .error (.validation fault)
  | none => .ok ()

def debugNumber (n? : Option UInt64) : String :=
  match n? with
  | none => "None"
  | some n => "Some(" ++ n.toNat.repr ++ ")"

def debug (select : Select) : String :=
  "SelectQb \x7b table: " ++ Text.escaped select.table.text ++
    ", columns: [" ++ ", ".intercalate (select.columns.map Text.escaped) ++
    "], filters: " ++ select.conditions.debug ++
    ", sort: [" ++ ", ".intercalate (select.sort.map SortField.debug) ++
    "], limit: " ++ debugNumber select.limit? ++
    ", offset: " ++ debugNumber select.offset? ++ " \x7d"

end Select

end TwinQuery
