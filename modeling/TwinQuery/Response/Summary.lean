import TwinQuery.Json.Decode
import TwinQuery.Response.Rows

/-!
# Answers to writes

The endpoints that write answer with a summary of what they did. A summary is read strictly: a
field that is there has to have its form, while one that is missing counts as zero or empty.
-/

namespace TwinQuery.Response

structure InsertSummary where
  insertedCount : UInt64 := 0
  failedCount : UInt64 := 0
  insertedIds : List String := []
  errors : List String := []
  deriving DecidableEq, Repr

structure UpdateSummary where
  updatedCount : UInt64 := 0
  matchedCount : UInt64 := 0
  newVersion? : Option UInt64 := none
  deriving DecidableEq, Repr

structure DeleteSummary where
  deletedCount : UInt64 := 0
  cascadedDeletes : Dictionary UInt64 := []
  deriving DecidableEq, Repr

/-- Take a summary out of its envelope and read it, saying what it is when it does not fit. -/
def summary {α : Type} (what : String) (decoder : Json.Decoder α) (answer : Json) :
    Except Error α := do
  let body ← unwrap answer
  match decoder body with
  | .ok read => return read
  | .error mismatch => .error (.decode (what ++ ": " ++ mismatch.message))

namespace InsertSummary

/-- The errors of an insertion: a list of texts, or one text alone. -/
def errorList : Json → List String
  | .string text => [text]
  | found => texts (some found)

def decode : Json.Decoder InsertSummary :=
  Json.decodeRecord "InsertResult" {}
    [("inserted_count", fun held found =>
        (Json.decodeUnsigned found).map fun n => { held with insertedCount := n }),
      ("failed_count", fun held found =>
        (Json.decodeUnsigned found).map fun n => { held with failedCount := n }),
      ("inserted_ids", fun held found => .ok { held with insertedIds := texts (some found) }),
      ("errors", fun held found => .ok { held with errors := errorList found })]

def ofJson (answer : Json) : Except Error InsertSummary :=
  summary "insert result" decode answer

def hasErrors (summary : InsertSummary) : Bool :=
  0 < summary.failedCount || !summary.errors.isEmpty

end InsertSummary

namespace UpdateSummary

def decode : Json.Decoder UpdateSummary :=
  Json.decodeRecord "UpdateResult" {}
    [("updated_count", fun held found =>
        (Json.decodeUnsigned found).map fun n => { held with updatedCount := n }),
      ("matched_count", fun held found =>
        (Json.decodeUnsigned found).map fun n => { held with matchedCount := n }),
      ("new_version", fun held found =>
        (Json.decodeOption Json.decodeUnsigned found).map fun n =>
          { held with newVersion? := n })]

def ofJson (answer : Json) : Except Error UpdateSummary :=
  summary "update result" decode answer

end UpdateSummary

namespace DeleteSummary

def decode : Json.Decoder DeleteSummary :=
  Json.decodeRecord "DeleteResult" {}
    [("deleted_count", fun held found =>
        (Json.decodeUnsigned found).map fun n => { held with deletedCount := n }),
      ("cascaded_deletes", fun held found =>
        (Json.decodeDictionary Json.decodeUnsigned found).map fun deletes =>
          { held with cascadedDeletes := deletes })]

/-- The answer without a null under `cascaded_deletes`, which stands for no deletions. -/
def withoutNull : Json → Json
  | .object fields =>
      match Dictionary.find? "cascaded_deletes" fields with
      | some .null => .object (Dictionary.erase "cascaded_deletes" fields)
      | _ => .object fields
  | answer => answer

/-- The summary in the answer of the delete endpoint, taken out of one envelope and then, as
the other summaries are, out of another. -/
def ofJson (answer : Json) : Except Error DeleteSummary := do
  let body ← unwrap answer
  summary "delete result" decode (withoutNull body)

end DeleteSummary

end TwinQuery.Response
