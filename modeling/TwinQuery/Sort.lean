import TwinQuery.Error
import TwinQuery.Json.Decode
import TwinQuery.Text.Blank
import TwinQuery.Text.Case

/-!
# Sort orders

A sort order is a list of columns, each with a direction.
-/

namespace TwinQuery

inductive SortDirection where
  | ascending
  | descending
  deriving DecidableEq, Repr

namespace SortDirection

def keyword : SortDirection → String
  | ascending => "ASC"
  | descending => "DESC"

def wireName : SortDirection → String
  | ascending => "Asc"
  | descending => "Desc"

/-- The direction that a text names, in letters of either case. -/
def parse (s : String) : Except Error SortDirection :=
  let name := Text.asciiLower (Text.trim s)
  if name = "asc" then .ok ascending
  else if name = "desc" then .ok descending
  else .error (.other ("invalid sort direction: '" ++ name ++ "'"))

def decode : Json.Decoder SortDirection :=
  Json.decodeName [("Asc", ascending), ("Desc", descending)]

end SortDirection

structure SortField where
  column : String
  direction : SortDirection
  deriving DecidableEq, Repr

namespace SortField

def toJson (field : SortField) : Json :=
  .ofFields [("column", .string field.column), ("direction", .string field.direction.wireName)]

/-- Read a sort field back from a request body, where both of its parts have to be there. -/
def decode : Json.Decoder SortField
  | .array items =>
      match items with
      | [] => .error (.invalidLength 0 expected)
      | [column] => do
          let _ ← Json.decodeString column
          .error (.invalidLength 1 expected)
      | column :: direction :: rest => do
          let column ← Json.decodeString column
          let direction ← SortDirection.decode direction
          if rest.isEmpty then .ok ⟨column, direction⟩
          else .error (.invalidLength items.length "fewer elements in array")
  | found => do
      let (column?, direction?) ← Json.decodeRecord "SortField" (none, none)
        [("column", fun held value =>
            (Json.decodeString value).map fun read => (some read, held.2)),
          ("direction", fun held value =>
            (SortDirection.decode value).map fun read => (held.1, some read))] found
      match column?, direction? with
      | none, _ => .error (.missingField "column")
      | _, none => .error (.missingField "direction")
      | some column, some direction => .ok ⟨column, direction⟩
where
  expected : String := "struct SortField with 2 elements"

def debug (field : SortField) : String :=
  "SortField \x7b column: " ++ Text.escaped field.column ++ ", direction: " ++
    field.direction.wireName ++ " \x7d"

end SortField

end TwinQuery
