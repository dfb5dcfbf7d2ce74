import PayloadCheck.Execution.OptionsDocument
import PayloadCheck.Execution.Session
import PayloadCheck.Payload
import PayloadCheck.Report.Encoding
import PayloadCheck.Unicode.Named

/-!
# The service

Two questions that can be asked with texts alone: what is wrong with a schema, and what a schema
says about a payload. Of several bad texts the options are named first, then the schema, then the
payload.
-/

namespace PayloadCheck

inductive Answer where
  | validated (o : Outcome)
  | failed (v : Verdict)
  | schemaError (errors : List SchemaError)
  | inputError (message : String)

/-- The errors of a schema text; compiling stops at the first. -/
def checkSchema (schema : String) : List SchemaError :=
  match Template.ofText schema with
  | .ok _ => []
  | .error e => [e]

def isBlankText (text : String) : Bool := text.toList.all fun c => CodeSet.space.contains c.toNat

/-- The options in a text, or the standard ones if the text is blank. -/
def readOptions (text : String) : Except String Options :=
  if isBlankText text then .ok .standard else Options.ofText text

/-- The answer that a run gives. -/
def Answer.ofRun : Except RunError Outcome → Answer
  | .ok o => .validated o
  | .error (.failed v) => .failed v
  | .error (.usage e) => .inputError e.message

def validatePayload (schema payload options : String) : Answer :=
  match readOptions options with
  | .error reason => .inputError ("Failed to parse options JSON: " ++ reason)
  | .ok options =>
    match Template.ofText schema with
    | .error e => .schemaError [e]
    | .ok template =>
      match readPayload payload with
      | .error e => .inputError e.message
      | .ok payload => .ofRun ((Session.ofTemplate template options).validate payload).answer

/-! ## Answers as JSON -/

def SchemaError.toJson (e : SchemaError) : Json :=
  .object [("code", .string e.code), ("message", .string e.message),
    ("field", (e.field?.map Json.string).getD .null)]

namespace Answer

def status : Answer → String
  | validated _ => "validated"
  | failed _ => "failed"
  | schemaError _ => "schema_error"
  | inputError _ => "input_error"

def members : Answer → List (String × Json)
  | validated o => o.members
  | failed v => v.members
  | schemaError errors => [("errors", .array (errors.map SchemaError.toJson))]
  | inputError message => [("message", .string message)]

def toJson (a : Answer) : Json := .object (("status", .string a.status) :: a.members)

end Answer

end PayloadCheck
