import TwinQuery.Statement.Delete
import TwinQuery.Statement.Insert
import TwinQuery.Statement.Select
import TwinQuery.Statement.Update

/-!
# Statements

A statement of any of the four kinds has two forms that describe one operation: SQL text, with
its values either written into it or left as numbered placeholders, and the JSON body of a
request. A statement that met a fault while it was being built has neither.
-/

namespace TwinQuery

inductive Statement where
  | select (statement : Select)
  | insert (statement : Insert)
  | update (statement : Update)
  | delete (statement : Delete)

namespace Statement

def table : Statement → TableName
  | select statement => statement.table
  | insert statement => statement.table
  | update statement => statement.table
  | delete statement => statement.table

def fault? : Statement → Option String
  | select statement => statement.fault?
  | insert statement => statement.fault?
  | update statement => statement.fault?
  | delete statement => statement.fault?

/-- The text of a statement, empty when there is nothing to execute or a fault was met. -/
def template : Statement → Template
  | select statement => statement.template
  | insert statement => statement.template
  | update statement => statement.template
  | delete statement => statement.template

/-- The JSON body of a statement, whether or not a fault was met. -/
def body : Statement → Json
  | select statement => statement.request.toJson
  | insert statement => statement.request.toJson
  | update statement => statement.request.toJson
  | delete statement => statement.request.toJson

/-- Refuse a statement that cannot be executed. -/
def validate : Statement → Except Error Unit
  | select statement => statement.validate
  | insert statement => statement.validate
  | update statement => statement.validate
  | delete statement => statement.validate

def render (statement : Statement) (bindings : Bindings) : String × Bindings :=
  bindings.fill statement.template

def sql (statement : Statement) : String :=
  (statement.render .inline).1

/-- The values of a statement in the order in which they appear in its text. -/
def bindings (statement : Statement) : List Scalar :=
  (statement.render .inline).2.values

/-- The text of a statement with numbered placeholders, and the values that they stand for. -/
def parameterized (statement : Statement) : String × List Scalar :=
  let (text, bindings) := statement.render .numbered
  (text, bindings.values)

/-- The JSON body of a statement that met no fault. -/
def array (statement : Statement) : Except Error Json :=
  match statement.fault? with
  | some fault => .error (.validation fault)
  | none => .ok statement.body

end Statement

end TwinQuery
