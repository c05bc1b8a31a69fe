import TwinQuery.Http.Settings
import TwinQuery.Http.Status
import TwinQuery.Json.Parser
import TwinQuery.Response.Envelope
import TwinQuery.Session.Basic
import TwinQuery.Text.Utf8
import TwinQuery.Url.Parser

/-!
# The service over HTTP

A call becomes a request to a URL below the base of the service, and the reply to it an answer
or an error. The network is a parameter: it carries a request and brings a reply back or fails.
-/

namespace TwinQuery.Http

structure Request where
  method : Method
  url : Url
  userAgent : String
  apiKey? : Option String
  /-- The JSON text of the body. -/
  body? : Option String

structure Response where
  status : Nat
  bytes : List Nat

/-- A network, given by how it carries a request in each of its states. A failure has a text. -/
class Network (ν : Type) where
  carry : ν → Request → Except String Response × ν

/-- Whether a text can be the value of a header: no control characters but the tab. -/
def isHeaderValue (s : String) : Bool :=
  s.toList.all fun c => c == '\t' || (0x20 ≤ c.toNat && c.toNat != 0x7F)

/-- Where the service is and what each request to it carries. -/
structure Endpoint where
  base : Url
  userAgent : String
  apiKey? : Option String

def urlError (fault : Url.Fault) : Error :=
  .transport ("invalid URL: " ++ fault.message)

namespace Endpoint

def slashed (base : String) : String :=
  String.ofList ((base.toList.reverse.dropWhile (· == '/')).reverse ++ ['/'])

def ofSettings (settings : Settings) : Except Error Endpoint := do
  if !settings.apiKey?.all isHeaderValue then
    throw (.other "API key is not a valid header value")
  if !isHeaderValue settings.userAgent then throw (.connection "builder error")
  match Url.parse none (slashed settings.baseUrl) with
  | .error fault => throw (urlError fault)
  | .ok base =>
      return { base, userAgent := settings.userAgent, apiKey? := settings.apiKey? }

def url (endpoint : Endpoint) (path : String) : Except Error Url :=
  match endpoint.base.join (String.ofList (path.toList.dropWhile (· == '/'))) with
  | .ok url => .ok url
  | .error fault => .error (urlError fault)

def request (endpoint : Endpoint) (call : Call) : Except Error Request :=
  (endpoint.url call.path).map fun url =>
    { method := call.method
      url
      userAgent := endpoint.userAgent
      apiKey? := endpoint.apiKey?
      body? := call.body?.map Json.text }

def debug (endpoint : Endpoint) : String :=
  "HttpTransport \x7b base_url: " ++ Text.escaped endpoint.base.text ++ ", .. \x7d"

end Endpoint

/-- The value in the body of a reply: null when it is blank, and nothing when it is no JSON. -/
def bodyValue? (text : List Char) : Option Json :=
  if text.all Text.isBlank then some .null else Json.parse? (String.ofList text)

/-- What a reply of failure says: the error or the message in its body, a body that is text, or
else the reason of its status. -/
def failureText (status : Nat) (body : Json) : String :=
  let stated? : Option String :=
    match body with
    | .object fields =>
        (Response.reportedError? fields).or
          ((Dictionary.find? "message" fields).bind Response.errorText?)
    | .string text => if Text.isBlankText text then none else some text
    | _ => none
  stated?.getD (reason status)

/-- The answer or the error that a reply to a call stands for, and the event that notes it. A
body that is no JSON is an error after success, and a text after failure. -/
def read (call : Call) (reply : Response) : Except Error Json × List Event :=
  let text := Text.decodeLossy reply.bytes
  if isSuccess reply.status then
    match bodyValue? text with
    | some body => (.ok body, [.responded call.method call.path reply.status])
    | none => (.error (.decode ("invalid JSON from " ++ call.path)), [])
  else
    let body := (bodyValue? text).getD (.string (String.ofList text))
    let message := failureText reply.status body
    (.error (.http reply.status message),
      [.requestFailed call.method call.path reply.status message])

structure Remote (ν : Type) where
  endpoint : Endpoint
  network : ν

instance {ν : Type} [Network ν] : Service (Remote ν) where
  respond remote call :=
    match remote.endpoint.request call with
    | .error error => { result := .error error, state := remote }
    | .ok request =>
        let sent : Event := .requesting call.method call.path
        let (outcome, network) := Network.carry remote.network request
        let (result, events) :=
          match outcome with
          | .ok reply => read call reply
          | .error failure => (.error (.connection failure), [])
        { result, events := sent :: events, state := { remote with network } }

end TwinQuery.Http
