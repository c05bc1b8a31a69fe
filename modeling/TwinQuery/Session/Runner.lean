import TwinQuery.Response.Rows
import TwinQuery.Session.Basic

/-!
# Executing statements and transactions

Statements go to the query endpoint as text. A transaction is opened and closed by statements
of its own; the runner follows its status, so that a call that does not fit it is refused
before anything is sent.
-/

namespace TwinQuery

open SessionM

variable {σ : Type} [Service σ]

def queryPath : String := "/query"

def queryCall (sql : String) : Call :=
  { method := .post
    path := queryPath
    body? := some (.object [("query", .string sql)]) }

/-- Execute a text. The parameters are those already written into it and only counted. A blank
text is refused, and a failure that the service reports is raised. -/
def execute (sql : String) (parameters : List Scalar := []) : SessionM σ Response.Rows := do
  if Text.isBlankText sql then throw (.emptyStatement "empty query text")
  note (.executing (.ofSql sql) parameters.length sql)
  let answer ← outcome (ε := Error) (send (queryCall sql))
  let result := do (← Response.Rows.ofJson (← answer)).checked
  match result with
  | .ok rows =>
      note (.completed rows.rows.length rows.rowsAffected?)
      return rows
  | .error error =>
      note (.failed error sql)
      throw error

def Statement.execute (statement : Statement) : SessionM σ Response.Rows := do
  statement.validate
  let (sql, bindings) := statement.render .inline
  TwinQuery.execute sql bindings.values

namespace Runner

def currentStatus {ε : Type} (runner : Runner) : SessionT ε σ TransactionStatus :=
  return (← get).status runner

def setStatus {ε : Type} (runner : Runner) (status : TransactionStatus) : SessionT ε σ Unit :=
  modify fun session =>
    { session with
      status := fun other => if other = runner then status else session.status other }

def requireTransaction (runner : Runner) : SessionM σ Unit := do
  if (← runner.currentStatus) ≠ .inTransaction then throw .noActiveTransaction

/-- Open a transaction. If that fails, the status is what it was. -/
def begin (runner : Runner) : SessionM σ Unit := do
  let previous ← runner.currentStatus
  if previous = .inTransaction then throw .transactionActive
  runner.setStatus .inTransaction
  note .beginning
  match ← outcome (ε := Error) (TwinQuery.execute "BEGIN TRANSACTION") with
  | .ok _ => return
  | .error error =>
      runner.setStatus previous
      throw error

/-- Close the transaction and keep what was done in it. If that fails, it stays open. -/
def commit (runner : Runner) : SessionM σ Unit := do
  runner.requireTransaction
  note .committing
  let _ ← TwinQuery.execute "COMMIT"
  runner.setStatus .committed

/-- Close the transaction and undo what was done in it. It is closed even if that fails. -/
def rollback (runner : Runner) : SessionM σ Unit := do
  runner.requireTransaction
  note .rollingBack
  let result ← outcome (ε := Error) (TwinQuery.execute "ROLLBACK")
  runner.setStatus .rolledBack
  let _ ← result

/-- Set a savepoint in the transaction, go back to it, or give it up. -/
def savepoint (runner : Runner) (call : SavepointCall) (name : String) : SessionM σ Unit := do
  runner.requireTransaction
  let name ← Identifier.savepoint name
  note (.savepoint call name)
  let _ ← TwinQuery.execute (call.keywords ++ " " ++ name)

/-- Close the transaction as its work ended: commit what succeeded and roll back what failed.
The failure of the work is what is raised, even if rolling back fails too; if committing
fails, rolling back is tried and that failure is raised. -/
def finish {ε α : Type} (runner : Runner) (ofError : Error → ε) (result : Except ε α) :
    SessionT ε σ α := do
  match result with
  | .ok value =>
      match ← outcome runner.commit with
      | .ok _ => return value
      | .error error =>
          note (.commitFailed error)
          match ← outcome runner.rollback with
          | .ok _ => throw (ofError error)
          | .error second =>
              note (.rollbackAfterCommitFailed second)
              throw (ofError error)
  | .error failure =>
      match ← outcome runner.rollback with
      | .ok _ => throw failure
      | .error error =>
          note (.rollbackFailed error)
          throw failure

/-- Do some work inside a transaction. The work may fail with errors of its own type, which
includes those of the library by `ofError`. -/
def transaction {ε α : Type} (runner : Runner) (ofError : Error → ε) (work : SessionT ε σ α) :
    SessionT ε σ α := do
  match ← outcome runner.begin with
  | .error error => throw (ofError error)
  | .ok _ =>
      let result ← outcome work
      runner.finish ofError result

def debug (status : TransactionStatus) : String :=
  "QueryRunner \x7b state: " ++ status.name ++ ", .. \x7d"

end Runner

end TwinQuery
