import TwinQuery.Request

/-!
# Updating rows

An update statement assigns columns of the rows that meet its conditions. Assigning a column
again replaces the earlier assignment where it stands. An assignment that makes no sense is
left out and the first such fault is kept.
-/

namespace TwinQuery

structure Update where
  table : TableName
  assignments : OrderedMap Assignment := .empty
  conditions : Conditions := {}
  lockVersion? : Option UInt64 := none
  /-- The first fault met in an assignment. -/
  assignmentFault? : Option String := none

namespace Update

def ofTable (table : String) : Except Error Update :=
  (TableName.ofText table).map fun table => { table }

/-- Keep a fault, unless there was one before. -/
def record (update : Update) (fault : String) : Update :=
  { update with assignmentFault? := update.assignmentFault?.or (some fault) }

def assign (update : Update) (column : String) (assignment : Assignment) : Update :=
  if Text.isBlankText column then update.record "SET column name is empty"
  else { update with assignments := update.assignments.set column assignment }

def set (update : Update) (column : String) (value : Scalar) : Update :=
  update.assign column (.value value)

def setAll (update : Update) (pairs : List (String × Scalar)) : Update :=
  pairs.foldl (fun held pair => held.set pair.1 pair.2) update

def arithmetic (update : Update) (column : String) (operation : Arithmetic) (amount : Scalar) :
    Update :=
  if amount.isNumeric then update.assign column (.arithmetic operation amount)
  else
    update.record
      (operation.wireName ++ " amount for '" ++ column ++ "' must be numeric, got " ++
        amount.literal)

inductive Step where
  | set (column : String) (value : Scalar)
  | setAll (pairs : List (String × Scalar))
  | arithmetic (column : String) (operation : Arithmetic) (amount : Scalar)
  | lockVersion (version : UInt64)
  | condition (step : Conditions.Step)

def apply (update : Update) : Step → Except Error Update
  | .set column value => .ok (update.set column value)
  | .setAll pairs => .ok (update.setAll pairs)
  | .arithmetic column operation amount => .ok (update.arithmetic column operation amount)
  | .lockVersion version => .ok { update with lockVersion? := some version }
  | .condition step =>
      (update.conditions.apply step).map fun conditions => { update with conditions }

/-- The fault of the assignments, or else of the conditions. -/
def fault? (update : Update) : Option String :=
  update.assignmentFault?.or update.conditions.fault?

def assignmentTemplate (column : String) (assignment : Assignment) : Template :=
  let name := Identifier.column column
  match assignment with
  | .value value => [.text (name ++ " = "), .slot value]
  | .arithmetic operation amount =>
      [.text (name ++ " = " ++ name ++ " " ++ operation.sign ++ " "), .slot amount]

/-- The text of the statement, empty when there is nothing to assign or a fault was met. -/
def template (update : Update) : Template :=
  if update.assignments.isEmpty || update.fault?.isSome then []
  else
    .text ("UPDATE " ++ Identifier.quote update.table.text ++ " SET ") ::
      (Template.joined ", " (update.assignments.entries.map fun entry =>
        assignmentTemplate entry.1 entry.2) ++
        update.conditions.whereTail)

def request (update : Update) : UpdateRequest :=
  { table := update.table
    updates := Dictionary.ofList update.assignments.entries
    filters := update.conditions.toDictionary
    lockVersion? := update.lockVersion? }

/-- Refuse a statement that met a fault or assigns nothing. -/
def validate (update : Update) : Except Error Unit :=
  match update.fault? with
  | some fault => .error (.validation fault)
  | none =>
      if update.assignments.isEmpty then .error (.emptyStatement "UPDATE without SET") else .ok ()

end Update

end TwinQuery
