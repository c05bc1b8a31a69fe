import TwinQuery.Decimal.Numeral

/-!
# Errors

An error tells where a call ended. A usage error is raised before anything is sent; the others
come from the connection, from a refusal of the service, or from an answer that could not be
read.
-/

namespace TwinQuery

inductive Error where
  /-- An operator text outside the catalogue. -/
  | unknownOperator (text : String)
  /-- A table name that is blank. -/
  | missingTable
  /-- A name that cannot be written safely. -/
  | invalidIdentifier (reason : String)
  /-- A statement with nothing to execute. -/
  | emptyStatement (reason : String)
  /-- A filter whose operand does not fit its operator. -/
  | invalidFilter (column reason : String)
  /-- A statement that recorded a fault while it was being built. -/
  | validation (reason : String)
  /-- A transaction begun inside a transaction. -/
  | transactionActive
  /-- A transaction call outside a transaction. -/
  | noActiveTransaction
  /-- A failure that the service reports. -/
  | query (reason : String)
  /-- A reply whose status is not one of success. -/
  | http (status : Nat) (reason : String)
  /-- A request that could not be addressed or carried. -/
  | transport (reason : String)
  /-- A reply that could not be read. -/
  | decode (reason : String)
  /-- A request that could not be put into words. -/
  | serialization (reason : String)
  /-- A request that got no reply. -/
  | connection (reason : String)
  /-- Anything else. -/
  | other (reason : String)
  deriving DecidableEq, Repr

namespace Error

def message : Error → String
  | unknownOperator text => "Unknown operator: " ++ text
  | missingTable => "Missing table name"
  | invalidIdentifier reason => "Invalid identifier: " ++ reason
  | emptyStatement reason => "Empty statement: " ++ reason
  | invalidFilter column reason => "Invalid filter on column '" ++ column ++ "': " ++ reason
  | validation reason => "Validation error: " ++ reason
  | transactionActive => "A transaction is already active"
  | noActiveTransaction => "No active transaction"
  | query reason => "Query failed: " ++ reason
  | http status reason => "HTTP " ++ Decimal.ofInt status ++ ": " ++ reason
  | transport reason => "Transport error: " ++ reason
  | decode reason => "Decode error: " ++ reason
  | serialization reason => "Serialization error: " ++ reason
  | connection reason => "HTTP client error: " ++ reason
  | other reason => reason

/-- Raised before anything is sent. -/
def isUsage : Error → Bool
  | unknownOperator _ | missingTable | invalidIdentifier _ | emptyStatement _
  | invalidFilter _ _ | validation _ | transactionActive | noActiveTransaction => true
  | _ => false

def isTransport : Error → Bool
  | http _ _ | transport _ | connection _ => true
  | _ => false

/-- The status of the reply, where a status is what went wrong. -/
def status? : Error → Option Nat
  | http status _ => some status
  | _ => none

end Error

end TwinQuery
