import PayloadCheck.Json.Reader
import PayloadCheck.Schema.Kind

/-!
# Payloads

A payload is the object that a document holds.
-/

namespace PayloadCheck

inductive PayloadError where
  | notJson (reason : String)
  | notAnObject (found : ValueKind)
  deriving Repr

def PayloadError.message : PayloadError → String
  | notJson reason => "payload is not valid JSON: " ++ reason
  | notAnObject found => "payload must be a JSON object, found " ++ found.name

def readPayload (text : String) : Except PayloadError Object :=
  match Json.parse text with
  | .error reason => .error (.notJson reason)
  | .ok payload =>
    match payload.toObject? with
    | some o => .ok o
    | none => .error (.notAnObject payload.kind)

end PayloadCheck
