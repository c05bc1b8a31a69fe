import TwinQuery.Session.Event
import TwinQuery.Statement.Basic

/-!
# Sessions

A session talks to a service. What it goes through is a value: the state of the service, the
status of every transaction, and the calls and events so far. An action of a session may fail
and changes that value whether it fails or not.
-/

namespace TwinQuery

/-- One request to the service. Paths are relative to the base of its interface. -/
structure Call where
  method : Method
  path : String
  body? : Option Json := none

/-- What a service makes of a call: an answer or an error, the events on the way, and its state
afterwards. -/
structure Reply (σ : Type) where
  result : Except Error Json
  events : List Event := []
  state : σ

/-- A service, given by how it answers each call in each of its states. -/
class Service (σ : Type) where
  respond : σ → Call → Reply σ

/-- Where a transaction stands. -/
inductive TransactionStatus where
  | idle
  | inTransaction
  | committed
  | rolledBack
  deriving DecidableEq, Repr

def TransactionStatus.name : TransactionStatus → String
  | idle => "Idle"
  | inTransaction => "InTransaction"
  | committed => "Committed"
  | rolledBack => "RolledBack"

/-- A runner of statements. Copies of a runner are the same runner and share its transaction;
runners of different numbers have transactions of their own. -/
structure Runner where
  number : Nat
  deriving DecidableEq, Repr

/-- What a session has gone through. -/
structure Session (σ : Type) where
  service : σ
  status : Runner → TransactionStatus := fun _ => .idle
  calls : List Call := []
  events : List Event := []

/-- An action of a session that may fail with an error of type `ε`. -/
abbrev SessionT (ε σ : Type) := ExceptT ε (StateM (Session σ))

abbrev SessionM (σ : Type) := SessionT Error σ

namespace SessionM

variable {σ : Type}

def note {ε : Type} (event : Event) : SessionT ε σ Unit :=
  modify fun session => { session with events := session.events ++ [event] }

def send [Service σ] (call : Call) : SessionM σ Json := fun session =>
  let reply := Service.respond session.service call
  (reply.result,
    { session with
      service := reply.state
      calls := session.calls ++ [call]
      events := session.events ++ reply.events })

/-- Carry an action out and hand over how it ended, whether it failed or not. -/
def outcome {ε ε' α : Type} (action : SessionT ε σ α) : SessionT ε' σ (Except ε α) :=
  fun session =>
    let (result, after) := action session
    (.ok result, after)

end SessionM

end TwinQuery
