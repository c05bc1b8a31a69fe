import TwinQuery.Proofs.Sql.Lexeme
import TwinQuery.Statement.Basic

/-!
# Skeletons of statements

The tokens of a statement form a skeleton: keywords, operators, commas and parentheses, with
places for a table, for columns, for the numbers of a page and for values. `Skeleton.fill` puts
tokens in the places. A value takes one place whatever it is.
-/

namespace TwinQuery

namespace Sql

/-- A token of a skeleton, or a place in it. -/
inductive Mark where
  | fixed (token : Token)
  | count (n : UInt64)
  | table (name : TableName)
  | column (name : String)
  | slot (value : Scalar)
  deriving DecidableEq, Repr

/-- The tokens of a statement with its names and values left in their places. -/
abbrev Skeleton := List Mark

/-- A mark without what is put in its place. -/
inductive Frame where
  | fixed (token : Token)
  | count
  | table
  | column
  | slot
  deriving DecidableEq, Repr

/-- What is left of a mark when its name, number or value is taken away. -/
def Mark.frame : Mark → Frame
  | fixed token => .fixed token
  | count _ => .count
  | table _ => .table
  | column _ => .column
  | slot _ => .slot

/-- Entries may be replaced before or after the parts are joined. -/
theorem flatMap_intercalate {α β : Type} (f : α → List β) (separator : List α)
    (parts : List (List α)) :
    (separator.intercalate parts).flatMap f =
      (separator.flatMap f).intercalate (parts.map fun part => part.flatMap f) := by
  induction parts with
  | nil => rfl
  | cons part rest ih =>
      cases rest with
      | nil => simp
      | cons following rest =>
          simp only [List.intercalate_cons_cons, List.flatMap_append, List.map_cons] at ih ⊢
          rw [ih]

def keyword (word : String) : Mark :=
  .fixed (.word word)

def symbol (text : String) : Mark :=
  .fixed (.symbol text)

namespace Skeleton

/-- The values, in the order of their places. -/
def slots : Skeleton → List Scalar
  | [] => []
  | .slot value :: rest => value :: slots rest
  | _ :: rest => slots rest

/-- The token that stands for the next value: its literal, or the next number. -/
def valueToken (bindings : Bindings) (value : Scalar) : Token :=
  match bindings.style with
  | .inline => literalToken value
  | .numbered => .placeholder (bindings.values.length + 1)

/-- The tokens of a skeleton when the given values come before it: one for the table, one for
every plain column, one for every value. -/
def fill (bindings : Bindings) : Skeleton → List Token
  | [] => []
  | .fixed token :: rest => token :: fill bindings rest
  | .count n :: rest => .number false n.toNat 0 :: fill bindings rest
  | .table name :: rest => .name name.text :: fill bindings rest
  | .column name :: rest => columnTokens name ++ fill bindings rest
  | .slot value :: rest => valueToken bindings value :: fill (bindings.bind value).2 rest

/-- Parts with commas between them. -/
def separated (parts : List Skeleton) : Skeleton :=
  [symbol ","].intercalate parts

def parenthesized (part : Skeleton) : Skeleton :=
  symbol "(" :: part ++ [symbol ")"]

end Skeleton

def operatorTokens : Operator → List Token
  | .equal => [.symbol "="]
  | .notEqual => [.symbol "!="]
  | .greater => [.symbol ">"]
  | .less => [.symbol "<"]
  | .greaterEqual => [.symbol ">="]
  | .lessEqual => [.symbol "<="]
  | .isIn => [.word "IN"]
  | .notIn => [.word "NOT", .word "IN"]
  | .like | .contains | .startsWith | .endsWith => [.word "LIKE"]
  | .notLike => [.word "NOT", .word "LIKE"]
  | .isNull => [.word "IS", .word "NULL"]
  | .isNotNull => [.word "IS", .word "NOT", .word "NULL"]
  | .neuralSimilar => [.word "NEUROMATCH"]
  | .quantumEntangled => [.word "QUANTUM_ENTANGLE"]

end Sql

open Sql

/-! ## Conditions -/

/-- A column before an operator. -/
def Filter.subject (filter : Filter) : Skeleton :=
  .column filter.column :: (operatorTokens filter.operator).map Mark.fixed

/-- The skeleton of a condition. An empty list of values leaves a comparison of constants. -/
def Filter.skeleton (filter : Filter) : Skeleton :=
  match filter.operand with
  | .none => filter.subject
  | .single value => filter.subject ++ [.slot value]
  | .list [] =>
      [.fixed (.number false 1 0), symbol "=",
        .fixed (.number false (if filter.operator = .notIn then 1 else 0) 0)]
  | .list values =>
      filter.subject ++ Skeleton.parenthesized (Skeleton.separated (values.map fun value =>
        [.slot value]))

def Conditions.skeleton (conditions : Conditions) : Skeleton :=
  [keyword "AND"].intercalate (conditions.filters.map Filter.skeleton)

/-- The skeleton of a clause with its keyword, nothing where there is no condition. -/
def Conditions.whereSkeleton (conditions : Conditions) : Skeleton :=
  if conditions.filters.isEmpty then [] else keyword "WHERE" :: conditions.skeleton

/-! ## Statements -/

namespace Select

/-- Every entry of the projection is `*` or consists of plain parts, so none is written as it
stands but `*`. -/
def ProjectsNames (select : Select) : Prop :=
  ∀ entry ∈ select.columns, entry = "*" ∨ Identifier.isPath entry = true

instance (select : Select) : Decidable select.ProjectsNames :=
  inferInstanceAs (Decidable (∀ entry ∈ select.columns, entry = "*" ∨ _))

def entryMark (entry : String) : Mark :=
  if entry = "*" then symbol "*" else .column entry

def sortSkeleton (select : Select) : Skeleton :=
  if select.sort.isEmpty then []
  else
    [keyword "ORDER", keyword "BY"] ++ Skeleton.separated (select.sort.map fun field =>
      [.column field.column, keyword field.direction.keyword])

def numberSkeleton (word : String) (n? : Option UInt64) : Skeleton :=
  match n? with
  | none => []
  | some n => [keyword word, .count n]

def skeleton (select : Select) : Skeleton :=
  keyword "SELECT" :: Skeleton.separated (select.columns.map fun entry => [entryMark entry]) ++
    [keyword "FROM", .table select.table] ++ select.conditions.whereSkeleton ++
    select.sortSkeleton ++ numberSkeleton "LIMIT" select.limit? ++
    numberSkeleton "OFFSET" select.offset?

def countSkeleton (select : Select) : Skeleton :=
  [keyword "SELECT", keyword "COUNT", symbol "(", symbol "*", symbol ")", keyword "FROM",
    .table select.table] ++ select.conditions.whereSkeleton

end Select

namespace Insert

def tupleSkeleton (columns : List String) (row : Record) : Skeleton :=
  Skeleton.parenthesized (Skeleton.separated (columns.map fun column =>
    [.slot ((row.get? column).getD .null)]))

def skeleton (insert : Insert) : Skeleton :=
  [keyword "INSERT", keyword "INTO", .table insert.table] ++
    Skeleton.parenthesized (Skeleton.separated (insert.columns.map fun column =>
      [.column column])) ++
    keyword "VALUES" :: Skeleton.separated (insert.rows.map (tupleSkeleton insert.columns))

end Insert

namespace Update

/-- The skeleton of an assignment. An amount is added to the column that is assigned. -/
def assignmentSkeleton (column : String) (assignment : Assignment) : Skeleton :=
  match assignment with
  | .value value => [.column column, symbol "=", .slot value]
  | .arithmetic operation amount =>
      [.column column, symbol "=", .column column, symbol operation.sign, .slot amount]

def skeleton (update : Update) : Skeleton :=
  [keyword "UPDATE", .table update.table, keyword "SET"] ++
    Skeleton.separated (update.assignments.entries.map fun entry =>
      assignmentSkeleton entry.1 entry.2) ++
    update.conditions.whereSkeleton

end Update

def Delete.skeleton (delete : Delete) : Skeleton :=
  [keyword "DELETE", keyword "FROM", .table delete.table] ++ delete.conditions.whereSkeleton

namespace Statement

def skeleton : Statement → Skeleton
  | select statement => statement.skeleton
  | insert statement => statement.skeleton
  | update statement => statement.skeleton
  | delete statement => statement.skeleton

/-- No entry of a projection is written as it stands but `*`. -/
def ProjectsNames : Statement → Prop
  | select statement => statement.ProjectsNames
  | _ => True

instance : DecidablePred ProjectsNames
  | select statement => inferInstanceAs (Decidable statement.ProjectsNames)
  | insert _ | update _ | delete _ => isTrue trivial

end Statement

end TwinQuery
