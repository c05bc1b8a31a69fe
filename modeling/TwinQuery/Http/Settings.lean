import TwinQuery.Error
import TwinQuery.Text.Blank

/-!
# Settings of a client

Settings say where the service is and how it is talked to. They have defaults, which the
environment or the caller may replace.
-/

namespace TwinQuery.Http

structure Settings where
  baseUrl : String := "http://localhost:8080/api/v1"
  apiKey? : Option String := none
  userAgent : String := "nqorm/0.1.0"
  /-- For a request as a whole, in milliseconds. -/
  timeout : Nat := 30000
  /-- For connecting, in milliseconds. -/
  connectTimeout : Nat := 10000
  deriving DecidableEq, Repr

namespace Settings

def urlVariable : String := "NEUROQUANTUM_URL"

def apiKeyVariable : String := "NEUROQUANTUM_API_KEY"

/-- The variable that holds the time for a request, in seconds. -/
def timeoutVariable : String := "NEUROQUANTUM_TIMEOUT_SECS"

/-- The settings that an environment gives. A blank base or key counts as none, while the time
has to be a number where it is given. -/
def ofEnvironment (lookup : String → Option String) : Except Error Settings :=
  let given (name : String) : Option String :=
    (lookup name).filter fun value => !Text.isBlankText value
  let settings : Settings :=
    { baseUrl := (given urlVariable).getD ({} : Settings).baseUrl
      apiKey? := given apiKeyVariable }
  match lookup timeoutVariable with
  | none => .ok settings
  | some seconds =>
      match Decimal.unsigned64? (Text.trimChars seconds.toList) with
      | some n => .ok { settings with timeout := n.toNat * 1000 }
      | none =>
          .error (.other (timeoutVariable ++ " is not a number: '" ++ seconds ++ "'"))

end Settings

end TwinQuery.Http
