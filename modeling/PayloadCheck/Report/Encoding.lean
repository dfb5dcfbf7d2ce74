import PayloadCheck.Json.Value
import PayloadCheck.Report.Outcome

/-!
# Reports as JSON

How verdicts and outcomes are written in a document. A path is an array in which keys are strings
and indices are integers.
-/

namespace PayloadCheck

def PathSegment.toJson : PathSegment → Json
  | key name => .string name
  | index i => .number (.integer i)

def Path.toJson (p : Path) : Json := .array (p.map PathSegment.toJson)

namespace Verdict

def members (v : Verdict) : List (String × Json) :=
  [("code", .string v.code.name), ("expected", .string v.expected),
    ("received", .string v.received), ("path", Path.toJson v.path), ("message", .string v.message)]

def toJson (v : Verdict) : Json := .object v.members

end Verdict

namespace Outcome

def listed (vs : List Verdict) : Json := .array (vs.map Verdict.toJson)

def members (o : Outcome) : List (String × Json) :=
  [("is_valid", .bool o.isValid), ("results", listed o.verdicts), ("errors", listed o.errors),
    ("valids", listed o.valids)]

def toJson (o : Outcome) : Json := .object o.members

end Outcome

end PayloadCheck
