import TwinQuery.Error
import TwinQuery.Json.Basic
import TwinQuery.Text.Blank
import TwinQuery.Text.Utf8

/-!
# Events

A session notes what it does: the statements it executes and how they end, the transaction
calls, the requests to the table endpoints and those over the network. An event is shown as a
level, the part of the library that it comes from, and named fields.
-/

namespace TwinQuery

inductive QueryKind where
  | select
  | insert
  | update
  | delete
  | transaction
  | other
  deriving DecidableEq, Repr

namespace QueryKind

/-- The first word of a text, in capital letters: what stands before the first blank or opening
parenthesis. -/
def keyword (sql : String) : String :=
  let word := (Text.dropBlanks sql.toList).takeWhile fun c => !(Text.isBlank c || c = '(')
  String.ofList (word.map Char.toUpper)

def ofSql (sql : String) : QueryKind :=
  match keyword sql with
  | "SELECT" | "WITH" => select
  | "INSERT" => insert
  | "UPDATE" => update
  | "DELETE" => delete
  | "BEGIN" | "COMMIT" | "ROLLBACK" | "SAVEPOINT" | "RELEASE" => transaction
  | _ => other

def name : QueryKind → String
  | select => "Select"
  | insert => "Insert"
  | update => "Update"
  | delete => "Delete"
  | transaction => "Transaction"
  | other => "Other"

end QueryKind

inductive Method where
  | get
  | post
  | put
  | delete
  deriving DecidableEq, Repr

def Method.name : Method → String
  | get => "GET"
  | post => "POST"
  | put => "PUT"
  | delete => "DELETE"

/-- What can be done with a savepoint of an open transaction. -/
inductive SavepointCall where
  | set
  | rollbackTo
  | release
  deriving DecidableEq, Repr

/-- The words before the name of the savepoint. -/
def SavepointCall.keywords : SavepointCall → String
  | set => "SAVEPOINT"
  | rollbackTo => "ROLLBACK TO SAVEPOINT"
  | release => "RELEASE SAVEPOINT"

inductive Level where
  | debug
  | info
  | warn
  deriving DecidableEq, Repr

def Level.name : Level → String
  | debug => "DEBUG"
  | info => "INFO"
  | warn => "WARN"

/-- Something that happened in a session. -/
inductive Event where
  | executing (kind : QueryKind) (parameters : Nat) (sql : String)
  | completed (rows : Nat) (rowsAffected? : Option UInt64)
  | failed (error : Error) (sql : String)
  | beginning
  | committing
  | rollingBack
  | savepoint (call : SavepointCall) (name : String)
  | commitFailed (error : Error)
  | rollbackAfterCommitFailed (error : Error)
  | rollbackFailed (error : Error)
  | tableQuery (table : String) (limit? : Option UInt64)
  | tableInsert (table : String) (records : Nat)
  | tableUpdate (table : String) (columns : Nat)
  | tableDelete (table : String) (filters : Nat)
  | requesting (method : Method) (path : String)
  | responded (method : Method) (path : String) (status : Nat)
  | requestFailed (method : Method) (path : String) (status : Nat) (reason : String)
  deriving DecidableEq, Repr

namespace Event

/-- How much of a statement an event shows, in bytes. -/
def shownBytes : Nat := 200

def showOption (n? : Option UInt64) : String :=
  match n? with
  | none => "None"
  | some n => "Some(" ++ n.toNat.repr ++ ")"

def level : Event → Level
  | beginning | committing | rollingBack => .info
  | failed _ _ | commitFailed _ | rollbackAfterCommitFailed _ | rollbackFailed _
  | requestFailed _ _ _ _ => .warn
  | _ => .debug

def target : Event → String
  | executing _ _ _ | completed _ _ | failed _ _ | tableQuery _ _ | tableInsert _ _
  | tableUpdate _ _ | tableDelete _ _ => "nqorm.sql"
  | requesting _ _ | responded _ _ _ | requestFailed _ _ _ _ => "nqorm.http"
  | _ => "nqorm.tx"

def fields : Event → List (String × Json)
  | executing kind parameters sql =>
      [("query_type", .string kind.name), ("param_count", .ofNat parameters),
        ("sql", .string (Text.abridge shownBytes sql)), ("message", .string "executing")]
  | completed rows rowsAffected? =>
      [("rows", .ofNat rows), ("rows_affected", .string (showOption rowsAffected?)),
        ("message", .string "completed")]
  | failed error sql =>
      [("error", .string error.message), ("sql", .string (Text.abridge shownBytes sql)),
        ("message", .string "failed")]
  | beginning => [("message", .string "BEGIN")]
  | committing => [("message", .string "COMMIT")]
  | rollingBack => [("message", .string "ROLLBACK")]
  | savepoint call name => [("savepoint", .string name), ("message", .string call.keywords)]
  | commitFailed error =>
      [("error", .string error.message), ("message", .string "commit failed, rolling back")]
  | rollbackAfterCommitFailed error =>
      [("error", .string error.message),
        ("message", .string "rollback after failed commit failed")]
  | rollbackFailed error =>
      [("error", .string error.message), ("message", .string "rollback failed")]
  | tableQuery table limit? =>
      [("table", .string table), ("limit", .string (showOption limit?)),
        ("message", .string "tables/query")]
  | tableInsert table records =>
      [("table", .string table), ("records", .ofNat records),
        ("message", .string "tables/insert")]
  | tableUpdate table columns =>
      [("table", .string table), ("columns", .ofNat columns),
        ("message", .string "tables/update")]
  | tableDelete table filters =>
      [("table", .string table), ("filters", .ofNat filters),
        ("message", .string "tables/delete")]
  | requesting method path =>
      [("method", .string method.name), ("path", .string path), ("message", .string "request")]
  | responded method path status =>
      [("method", .string method.name), ("path", .string path), ("status", .ofNat status),
        ("message", .string "response")]
  | requestFailed method path status reason =>
      [("method", .string method.name), ("path", .string path), ("status", .ofNat status),
        ("message", .string reason)]

end Event

end TwinQuery
