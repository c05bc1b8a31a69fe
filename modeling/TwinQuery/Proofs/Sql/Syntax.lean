import TwinQuery.Proofs.Sql.Skeleton

/-!
# What a text says

A reader of tokens recovers what a read, an update or a deletion says: its table, projection,
assignments, conditions, sort order and page. It cuts the tokens at the keywords and commas, and
since what stands between quotes is one token, no name and no value is ever cut.
-/

namespace TwinQuery.Sql

/-- A value as a text shows it. -/
inductive Literal where
  | null
  | bool (value : Bool)
  /-- `significand / 10 ^ places`, negative or not. -/
  | number (negative : Bool) (significand places : Nat)
  | text (value : String)
  deriving DecidableEq, Repr

/-- What a condition compares its column with. -/
inductive Compared where
  | nothing
  | value (literal : Literal)
  | values (literals : List Literal)
  deriving DecidableEq, Repr

/-- A condition as a text shows it. -/
inductive Condition where
  /-- A comparison of constants that holds or not. -/
  | constant (holds : Bool)
  /-- A column, the text of an operator, and an operand. -/
  | test (column operator : String) (operand : Compared)
  deriving DecidableEq, Repr

inductive Projected where
  | all
  | column (name : String)
  deriving DecidableEq, Repr

inductive Assigned where
  | value (literal : Literal)
  | arithmetic (operation : Arithmetic) (amount : Literal)
  deriving DecidableEq, Repr

/-- What a read, an update or a deletion says. -/
inductive Description where
  | select (table : String) (projection : List Projected) (conditions : List Condition)
      (sort : List SortField) (limit? offset? : Option Nat)
  | update (table : String) (assignments : List (String × Assigned)) (conditions : List Condition)
  | delete (table : String) (conditions : List Condition)
  deriving DecidableEq, Repr

/-! ## Values, columns and operators -/

def Literal.ofToken? : Token → Option Literal
  | .number negative significand places => some (.number negative significand places)
  | .string shown => some (.text shown)
  | .word word =>
      if word = "NULL" then some .null
      else if word = "TRUE" then some (.bool true)
      else if word = "FALSE" then some (.bool false)
      else none
  | _ => none

def Literal.ofTokens? : List Token → Option Literal
  | [token] => Literal.ofToken? token
  | _ => none

/-- The column at the front of the tokens, a name or several with points between them, and what
follows it. -/
def columnAt? : List Token → Option (String × List Token)
  | .name part :: .symbol mark :: rest =>
      if mark = "." then (columnAt? rest).map fun (later, after) => (part ++ "." ++ later, after)
      else some (part, .symbol mark :: rest)
  | .name part :: rest => some (part, rest)
  | _ => none

def columnOf? (tokens : List Token) : Option String :=
  match columnAt? tokens with
  | some (column, []) => some column
  | _ => none

/-- The text of the operator at the front of the tokens, and what follows it. -/
def operatorAt? (tokens : List Token) : Option (String × List Token) :=
  (Operator.all.find? fun operator => (operatorTokens operator).isPrefixOf tokens).map
    fun operator => (operator.token, tokens.drop (operatorTokens operator).length)

/-- The parts between the commas, each of them read. -/
def listOf? {α : Type} (read : List Token → Option α) (tokens : List Token) : Option (List α) :=
  (tokens.splitOn (.symbol ",")).mapM read

/-! ## Conditions -/

def Compared.ofTokens? (tokens : List Token) : Option Compared :=
  if tokens = [] then some .nothing
  else if tokens.head? = some (.symbol "(") ∧ tokens.getLast? = some (.symbol ")") then
    (listOf? Literal.ofTokens? tokens.tail.dropLast).map .values
  else (Literal.ofTokens? tokens).map .value

def Condition.ofTokens? (tokens : List Token) : Option Condition :=
  if tokens = [.number false 1 0, .symbol "=", .number false 1 0] then some (.constant true)
  else if tokens = [.number false 1 0, .symbol "=", .number false 0 0] then some (.constant false)
  else do
    let (column, rest) ← columnAt? tokens
    let (operator, rest) ← operatorAt? rest
    let operand ← Compared.ofTokens? rest
    return .test column operator operand

/-! ## Clauses -/

/-- The tokens before a keyword and those after it, if it is there. -/
def clause (word : String) (tokens : List Token) : List Token × Option (List Token) :=
  match tokens.dropWhile fun token => token ≠ .word word with
  | [] => (tokens, none)
  | _ :: after => (tokens.takeWhile fun token => token ≠ .word word, some after)

/-- The conditions between the keywords of a clause, none where there is no clause. -/
def conditionsOf? : Option (List Token) → Option (List Condition)
  | none => some []
  | some tokens => (tokens.splitOn (.word "AND")).mapM Condition.ofTokens?

def Projected.ofTokens? (tokens : List Token) : Option Projected :=
  if tokens = [.symbol "*"] then some .all else (columnOf? tokens).map .column

def directionOf? (tokens : List Token) : Option SortDirection :=
  if tokens = [.word "ASC"] then some .ascending
  else if tokens = [.word "DESC"] then some .descending
  else none

def sortFieldOf? (tokens : List Token) : Option SortField := do
  let (column, rest) ← columnAt? tokens
  let direction ← directionOf? rest
  return ⟨column, direction⟩

/-- A sort order, empty where there is no clause. -/
def sortOf? : Option (List Token) → Option (List SortField)
  | none => some []
  | some tokens =>
      if tokens.head? = some (.word "BY") then listOf? sortFieldOf? tokens.tail else none

/-- The number of a clause, nothing where there is no clause. -/
def numberOf? : Option (List Token) → Option (Option Nat)
  | none => some none
  | some [.number false n 0] => some (some n)
  | some _ => none

def tableOf? : List Token → Option String
  | [.name table] => some table
  | _ => none

def signOf? (token : Token) : Option Arithmetic :=
  if token = .symbol "+" then some .increment
  else if token = .symbol "-" then some .decrement
  else none

/-- What is assigned to a column: a value, or the column itself with a sign and an amount. -/
def Assigned.ofTokens? (column : String) (tokens : List Token) : Option Assigned :=
  match columnAt? tokens with
  | none => (Literal.ofTokens? tokens).map .value
  | some (source, [sign, amount]) =>
      if source = column then do
        let operation ← signOf? sign
        let amount ← Literal.ofToken? amount
        return .arithmetic operation amount
      else none
  | some _ => none

def assignmentOf? (tokens : List Token) : Option (String × Assigned) := do
  let (column, rest) ← columnAt? tokens
  if rest.head? = some (.symbol "=") then
    let assigned ← Assigned.ofTokens? column rest.tail
    return (column, assigned)
  else none

/-! ## Statements -/

namespace Description

def ofSelect? (tokens : List Token) : Option Description := do
  let (tokens, offset) := clause "OFFSET" tokens
  let (tokens, limit) := clause "LIMIT" tokens
  let (tokens, sort) := clause "ORDER" tokens
  let (tokens, conditions) := clause "WHERE" tokens
  let (projection, table) := clause "FROM" tokens
  let table ← table.bind tableOf?
  let projection ← listOf? Projected.ofTokens? projection
  let conditions ← conditionsOf? conditions
  let sort ← sortOf? sort
  let limit? ← numberOf? limit
  let offset? ← numberOf? offset
  return .select table projection conditions sort limit? offset?

def ofUpdate? (tokens : List Token) : Option Description := do
  let (tokens, conditions) := clause "WHERE" tokens
  let (table, assignments) := clause "SET" tokens
  let table ← tableOf? table
  let assignments ← assignments.bind (listOf? assignmentOf?)
  let conditions ← conditionsOf? conditions
  return .update table assignments conditions

def ofDelete? (tokens : List Token) : Option Description := do
  let (tokens, conditions) := clause "WHERE" tokens
  if tokens.head? = some (.word "FROM") then
    let table ← tableOf? tokens.tail
    let conditions ← conditionsOf? conditions
    return .delete table conditions
  else none

/-- What the tokens of a statement say. -/
def ofTokens? : List Token → Option Description
  | [] => none
  | first :: rest =>
      if first = .word "SELECT" then ofSelect? rest
      else if first = .word "UPDATE" then ofUpdate? rest
      else if first = .word "DELETE" then ofDelete? rest
      else none

def ofText? (text : String) : Option Description :=
  (tokens text.toList).bind ofTokens?

end Description

end TwinQuery.Sql
