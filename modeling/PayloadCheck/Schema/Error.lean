import PayloadCheck.Json.Printer
import PayloadCheck.Schema.Bounds
import PayloadCheck.Schema.Kind

/-!
# Schema errors

What can be wrong with a schema: its text, its root, or the specification of a field. Each cause
has a code and a message.
-/

namespace PayloadCheck

/-- What is wrong with the specification of a field. -/
inductive Violation where
  | notAnObject (found : ValueKind)
  | unknownConstraint (key : String)
  | missingType
  | invalidType (found : Json)
  | flagNotBoolean (key : String) (found : ValueKind)
  | boundsNotPair (key : String)
  | boundNotNumeric (key : String) (found : Json)
  | boundsInverted (key : String) (bounds : Bounds)
  | negativeLength (bounds : Bounds)
  | regexNotString (found : ValueKind)
  | regexInvalid (source : String)
  deriving Repr

namespace Violation

def code : Violation → String
  | notAnObject _ => "T001"
  | missingType => "T002"
  | invalidType _ => "T003"
  | boundsNotPair _ => "T004"
  | boundNotNumeric _ _ => "T005"
  | boundsInverted _ _ => "T006"
  | negativeLength _ => "T007"
  | flagNotBoolean _ _ => "T008"
  | regexNotString _ => "T009"
  | regexInvalid _ => "T009"
  | unknownConstraint _ => "T010"

/-- What is said about a violation. An invalid pattern is only quoted: the words in which the engine
refuses it, which would stand behind the quote, are not kept. -/
def message : Violation → String
  | notAnObject found => "Field specification must be an object, found " ++ found.name
  | missingType => "Missing required key 'type'"
  | invalidType found => "Invalid type: " ++ found.render
  | boundsNotPair key => "Invalid " ++ key ++ " format, must be a tuple [min, max]"
  | boundNotNumeric key found =>
    key ++ " values must be numeric or null, found " ++ found.render
  | boundsInverted key bounds => key ++ " minimum exceeds maximum in " ++ bounds.text
  | negativeLength bounds => "length bounds must not be negative, found " ++ bounds.text
  | flagNotBoolean key found => "'" ++ key ++ "' must be a boolean, found " ++ found.name
  | regexNotString found => "regex must be a string, found " ++ found.name
  | regexInvalid source => "Invalid regex '" ++ source ++ "'"
  | unknownConstraint key => "Unknown constraint '" ++ key ++ "'"

end Violation

inductive SchemaError where
  | notJson (reason : String)
  | rootNotAnObject (found : ValueKind)
  | inField (name : String) (violation : Violation)
  deriving Repr

namespace SchemaError

def code : SchemaError → String
  | notJson _ => "P001"
  | rootNotAnObject _ => "P002"
  | inField _ violation => violation.code

def field? : SchemaError → Option String
  | inField name _ => some name
  | _ => none

def message : SchemaError → String
  | notJson reason => "Failed to parse schema JSON: " ++ reason
  | rootNotAnObject found => "Schema root must be an object, found " ++ found.name
  | inField _ violation => violation.message

def text (e : SchemaError) : String :=
  "[" ++ e.code ++ "] " ++ e.message ++
    match e.field? with
    | some name => " (field '" ++ name ++ "')"
    | none => ""

end SchemaError

end PayloadCheck
