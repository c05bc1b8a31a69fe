import TwinQuery.Conditions
import TwinQuery.Row
import TwinQuery.Sort

/-!
# Request bodies

The table endpoints take a statement as a JSON object. What a statement leaves at its default
is left out of the object instead of being sent as null.
-/

namespace TwinQuery

/-- The name of a table, checked when it was given. -/
structure TableName where
  text : String
  deriving DecidableEq, Repr

def TableName.ofText (text : String) : Except Error TableName :=
  (Identifier.table text).map TableName.mk

structure QueryRequest where
  table : TableName
  columns? : Option (List String)
  filters? : Option (Dictionary FilterEntry)
  sort? : Option (List SortField)
  limit? : Option UInt64
  offset? : Option UInt64

structure InsertRequest where
  table : TableName
  records : List Record
  onConflict? : Option ConflictResolution
  batchSize? : Option UInt64

structure UpdateRequest where
  table : TableName
  updates : Dictionary Assignment
  filters : Dictionary FilterEntry
  lockVersion? : Option UInt64

structure DeleteRequest where
  table : TableName
  filters : Dictionary FilterEntry
  cascade? : Option Bool
  softDelete? : Option Bool

def unsignedJson (n : UInt64) : Json :=
  .ofNat n.toNat

def QueryRequest.toJson (request : QueryRequest) : Json :=
  .ofFields
    ([("table_name", .string request.table.text)] ++
      Json.optional "columns" (request.columns?.map fun columns =>
        .array (columns.map Json.string)) ++
      Json.optional "filters" (request.filters?.map filtersJson) ++
      Json.optional "sort" (request.sort?.map fun sort => .array (sort.map SortField.toJson)) ++
      Json.optional "limit" (request.limit?.map unsignedJson) ++
      Json.optional "offset" (request.offset?.map unsignedJson))

def InsertRequest.toJson (request : InsertRequest) : Json :=
  .ofFields
    ([("table_name", .string request.table.text),
      ("records", .array (request.records.map Record.toJson))] ++
      Json.optional "on_conflict" (request.onConflict?.map fun choice => .string choice.wireName) ++
      Json.optional "batch_size" (request.batchSize?.map unsignedJson))

def UpdateRequest.toJson (request : UpdateRequest) : Json :=
  .ofFields
    ([("table_name", .string request.table.text),
      ("updates", .object (request.updates.map fun (column, assignment) =>
        (column, assignment.toJson))),
      ("filters", filtersJson request.filters)] ++
      Json.optional "optimistic_lock_version" (request.lockVersion?.map unsignedJson))

def DeleteRequest.toJson (request : DeleteRequest) : Json :=
  .ofFields
    ([("table_name", .string request.table.text), ("filters", filtersJson request.filters)] ++
      Json.optional "cascade" (request.cascade?.map Json.bool) ++
      Json.optional "soft_delete" (request.softDelete?.map Json.bool))

end TwinQuery
