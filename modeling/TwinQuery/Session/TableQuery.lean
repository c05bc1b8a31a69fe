import TwinQuery.Session.Runner
import TwinQuery.Session.Tables

/-!
# Queries of one table

A table query collects conditions, columns, a sort order and a page like a select statement.
Each of its ends sends one request: it reads rows, one row or one column, asks whether there
is a row, counts the rows, or writes to the rows that meet the conditions.
-/

namespace TwinQuery

structure TableQuery where
  select : Select

namespace TableQuery

variable {σ : Type} [Service σ]

def ofTable (table : String) : Except Error TableQuery :=
  (Select.ofTable table).map TableQuery.mk

def apply (query : TableQuery) (step : Select.Step) : Except Error TableQuery :=
  (query.select.apply step).map TableQuery.mk

def rows (query : TableQuery) : SessionM σ (List Response.Row) :=
  return (← Tables.select query.select).rows

def first? (query : TableQuery) : SessionM σ (Option Response.Row) :=
  return (← Tables.select (query.select.withLimit 1)).rows.head?

def exists? (query : TableQuery) : SessionM σ Bool := do
  let answer ← Tables.select ((query.select.project ["1"]).withLimit 1)
  return !answer.rows.isEmpty

/-- How many rows there are, whatever their order and the page. -/
def count (query : TableQuery) : SessionM σ UInt64 := do
  query.select.validate
  let (sql, bindings) := Bindings.inline.fill query.select.countTemplate
  let answer ← execute sql bindings.values
  match answer.rows.head? with
  | some row => Response.Rows.count row
  | none => return 0

def pluck (query : TableQuery) (column : String) : SessionM σ (List Json) :=
  return (← Tables.select (query.select.project [column])).pluck column

/-- One column of the first row. -/
def value? (query : TableQuery) (column : String) : SessionM σ (Option Json) := do
  let answer ← Tables.select ((query.select.project [column]).withLimit 1)
  return answer.rows.head?.map fun row => (Dictionary.find? column row).getD .null

def updateStatement (query : TableQuery) (values : List (String × Scalar)) : Update :=
  { ({ table := query.select.table } : Update).setAll values with
    conditions := query.select.conditions }

def deleteStatement (query : TableQuery) : Delete :=
  { table := query.select.table, conditions := query.select.conditions }

/-- The insertion of rows into the table. The conditions play no part in it. -/
def insertStatement (query : TableQuery) (rows : List Record) : Insert :=
  { table := query.select.table, rows }

def update (query : TableQuery) (values : List (String × Scalar)) :
    SessionM σ Response.UpdateSummary :=
  Tables.updateWith (query.updateStatement values)

def delete (query : TableQuery) : SessionM σ Response.DeleteSummary :=
  Tables.deleteWith query.deleteStatement

def insert (query : TableQuery) (rows : List Record) : SessionM σ Response.InsertSummary :=
  Tables.insertWith (query.insertStatement rows)

def debug (query : TableQuery) : String :=
  "TableQuery \x7b select: " ++ query.select.debug ++ ", .. \x7d"

end TableQuery

end TwinQuery
