import TwinQuery.Request

/-!
# Deleting rows

A delete statement removes the rows that meet its conditions; without conditions, all rows of
the table.
-/

namespace TwinQuery

structure Delete where
  table : TableName
  conditions : Conditions := {}
  cascade? : Option Bool := none
  softDelete? : Option Bool := none

namespace Delete

def ofTable (table : String) : Except Error Delete :=
  (TableName.ofText table).map fun table => { table }

inductive Step where
  | condition (step : Conditions.Step)
  | cascade (choice : Bool)
  | softDelete (choice : Bool)

def apply (delete : Delete) : Step → Except Error Delete
  | .condition step =>
      (delete.conditions.apply step).map fun conditions => { delete with conditions }
  | .cascade choice => .ok { delete with cascade? := some choice }
  | .softDelete choice => .ok { delete with softDelete? := some choice }

def fault? (delete : Delete) : Option String :=
  delete.conditions.fault?

/-- The text of the statement, empty when a fault was met. -/
def template (delete : Delete) : Template :=
  if delete.fault?.isSome then []
  else
    .text ("DELETE FROM " ++ Identifier.quote delete.table.text) :: delete.conditions.whereTail

def request (delete : Delete) : DeleteRequest :=
  { table := delete.table
    filters := delete.conditions.toDictionary
    cascade? := delete.cascade?
    softDelete? := delete.softDelete? }

def validate (delete : Delete) : Except Error Unit :=
  match delete.fault? with
  | some fault => .error (.validation fault)
  | none => .ok ()

end Delete

end TwinQuery
