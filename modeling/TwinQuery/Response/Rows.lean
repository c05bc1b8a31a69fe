import TwinQuery.Response.Envelope

/-!
# Answers with rows

Both the query endpoint and the read endpoint answer with rows and with what they say about
them. Whatever is missing or not of the expected form is left empty, except that an answer
which is no object at all cannot be read.
-/

namespace TwinQuery.Response

abbrev Row := Dictionary Json

structure Rows where
  success : Bool
  rowsAffected? : Option UInt64
  rows : List Row
  columns : List String
  error? : Option String
  executionTime? : Option Float
  totalCount? : Option UInt64
  hasMore? : Option Bool

def objects : Option Json → List Row
  | some (.array items) => items.filterMap Json.fields?
  | _ => []

/-- The items of an array as texts: strings as they are, other values as their JSON texts. -/
def texts : Option Json → List String
  | some (.array items) => items.map fun item => item.string?.getD item.text
  | _ => []

namespace Rows

/-- Read an answer whose envelope was removed. Rows stand under `rows` or else under `records`,
and success is the absence of an error where it is not stated. -/
def ofFields (fields : Dictionary Json) : Rows :=
  let find (name : String) := Dictionary.find? name fields
  let error? := reportedError? fields
  { success := ((find "success").bind Json.bool?).getD error?.isNone
    rowsAffected? := (find "rows_affected").bind Json.unsigned64?
    rows :=
      match find "rows" with
      | some (.array items) => objects (some (.array items))
      | _ => objects (find "records")
    columns := texts (find "columns")
    error?
    executionTime? :=
      ((find "execution_time_ms").bind Json.number?).or
        (((find "query_stats").bind (Json.field? "execution_time_ms")).bind Json.number?)
    totalCount? := (find "total_count").bind Json.unsigned64?
    hasMore? := (find "has_more").bind Json.bool? }

def ofJson (answer : Json) : Except Error Rows := do
  match ← unwrap answer with
  | .object fields => return ofFields fields
  | other =>
      .error (.decode ("expected an object for query result, got " ++ other.text))

/-- Raise the failure that an answer reports. -/
def checked (rows : Rows) : Except Error Rows :=
  if rows.success then .ok rows
  else .error (.query (rows.error?.getD "query reported failure"))

/-- The values of one column in the order of the rows, null where a row lacks it. -/
def pluck (rows : Rows) (column : String) : List Json :=
  rows.rows.map fun row => (Dictionary.find? column row).getD .null

/-- The number that the row of a count holds: under `count`, `COUNT(*)` or `count(*)`, or else
in its first column. It may be a number, a fraction being cut off, or a text of digits. -/
def count (row : Row) : Except Error UInt64 :=
  let named := ["count", "COUNT(*)", "count(*)"].findSome? fun name => Dictionary.find? name row
  let value? := named.or (row.head?.map (·.2))
  match value? with
  | none => .error (.decode "count result has no columns")
  | some (.int n) =>
      match (Json.int n).unsigned64? with
      | some count => .ok count
      | none => .error (.decode ("invalid count value: " ++ (Json.int n).text))
  | some (.float x) =>
      if 0.0 ≤ x then .ok x.toUInt64
      else .error (.decode ("invalid count value: " ++ (Json.float x).text))
  | some (.string s) =>
      match Decimal.unsigned64? (Text.trimChars s.toList) with
      | some count => .ok count
      | none => .error (.decode ("invalid count value: '" ++ s ++ "'"))
  | some other => .error (.decode ("invalid count value: " ++ other.text))

end Rows

end TwinQuery.Response
