import TwinQuery.Error
import TwinQuery.Json.Printer

/-!
# Envelopes

The service may wrap an answer in an object with the fields `success`, `data` and `error`. An
object under `data` is the answer itself. A failure with no such object is reported as an
error, whose text may be given in one of several forms.
-/

namespace TwinQuery.Response

/-- The text of an `error` field: a string, an object with a string under `message`, or an
object with one field, whose name is the kind of the error and whose value its text. Anything
else but null is shown as its JSON text. -/
def errorText? : Json → Option String
  | .null => none
  | .string text => some text
  | .object fields =>
      match Dictionary.find? "message" fields with
      | some (.string text) => some text
      | _ =>
          match fields with
          | [(kind, .string text)] => some (kind ++ ": " ++ text)
          | fields => some (Json.object fields).text
  | other => some other.text

def reportedError? (fields : Dictionary Json) : Option String :=
  (Dictionary.find? "error" fields).bind errorText?

/-- Take an answer out of its envelope. An object that has both `data` and `success` is an
envelope: an object under `data` is the answer, and otherwise `success` decides whether a
failure is raised or the fields around `data` are the answer. -/
def unwrap : Json → Except Error Json
  | .object fields =>
      if Dictionary.contains "data" fields && Dictionary.contains "success" fields then
        match Dictionary.find? "data" fields, Dictionary.find? "success" fields with
        | some (.object data), _ => .ok (.object data)
        | _, some (.bool false) =>
            .error (.query ((reportedError? fields).getD "request failed"))
        | _, _ => .ok (.object (Dictionary.erase "data" fields))
      else .ok (.object fields)
  | answer => .ok answer

end TwinQuery.Response
