import PayloadCheck.Json.Printer
import PayloadCheck.Report.Verdict
import PayloadCheck.Schema.Template

/-!
# Checks

A check tests the value of one field for one constraint and gives its verdicts: one, or one for
each offending element of an array. `Check.contribution` says which verdicts count in a run, where
a check may be passed over, and whether it decides the field, so that no later check runs.
-/

namespace PayloadCheck

inductive Check where
  | required (flag : Bool)
  | nullable (flag : Bool)
  | notBlank
  | type (t : FieldType)
  | range (bounds : Bounds)
  | length (bounds : Bounds)
  | regex (pattern : Pattern)

namespace Json

/-- How a value is quoted in a report: a string as it is. -/
def shown : Json → String
  | string s => s
  | j => j.render

/-- The text that a pattern is matched against. -/
def text? : Json → Option String
  | string s => some s
  | number n => some n.text
  | _ => none

/-- The number of characters or of elements. -/
def size? : Json → Option Nat
  | string s => some s.length
  | array items => some items.length
  | _ => none

def isNull : Json → Bool
  | null => true
  | _ => false

/-- Null, false, the empty string and the empty array. -/
def isBlankValue : Json → Bool
  | null => true
  | bool b => !b
  | string s => s.isEmpty
  | array items => items.isEmpty
  | _ => false

/-- How a value or its absence is quoted in a report. -/
def shownOrAbsent : Option Json → String
  | some j => j.shown
  | none => "not defined"

end Json

namespace Check

def kind : Check → ConstraintKind
  | required _ => .required
  | nullable _ => .nullable
  | notBlank => .notBlank
  | type _ => .type
  | range _ => .range
  | length _ => .length
  | regex _ => .regex

/-- Whether the check has something to say about a kind of value. -/
def appliesTo (c : Check) (k : ValueKind) : Bool :=
  match c with
  | nullable _ => k = .null
  | range _ => k.isNumeric
  | length _ => k.isSized
  | regex _ => k.isTextual || k = .array
  | _ => true

/-! ## Verdicts -/

def requiredVerdict (flag : Bool) (value : Option Json) (path : Path) : Verdict :=
  if value.isSome then ⟨.valid, "defined", "defined", path, "Value is present"⟩
  else if flag then ⟨.invalidRequired, "defined", "not defined", path, "Value is required"⟩
  else ⟨.valid, "optional", "not defined", path, "Value is not required"⟩

def nullableVerdict (flag : Bool) (value : Option Json) (path : Path) : Verdict :=
  if flag then ⟨.valid, "nullable", Json.shownOrAbsent value, path, "Value is nullable"⟩
  else
    ⟨.invalidNullable, "not nullable", Json.shownOrAbsent value, path, "Value is not nullable"⟩

def notBlankVerdict (value : Option Json) (path : Path) : Verdict :=
  if value.all Json.isBlankValue then
    ⟨.notBlank, "not_blank", "blank", path, "Value cannot be blank"⟩
  else ⟨.valid, "not_blank", "not_blank", path, "Value is not blank"⟩

/-- The verdicts on the elements that do not pass, or the one on the whole array if all do. -/
def elementwise (passes : Json → Bool) (offence : Json → Path → Verdict) (whole : Verdict)
    (items : List Json) (path : Path) : List Verdict :=
  let offences := (items.zipIdx.filter fun (item, _) => !passes item).map fun (item, i) =>
    offence item (path ++ [.index i])
  if offences.isEmpty then [whole] else offences

def typeOffence (expected : String) (value : Json) (path : Path) : Verdict :=
  ⟨.invalidType, expected, value.kind.name, path, "Invalid type"⟩

def typeVerdicts (t : FieldType) (value : Option Json) (path : Path) : List Verdict :=
  match t, value with
  | t, none => [⟨.invalidType, t.name, "not defined", path, "Invalid type"⟩]
  | .scalar s, some v =>
    if s.accepts v.kind then [⟨.valid, t.name, v.kind.name, path, "Valid type"⟩]
    else [typeOffence t.name v path]
  | .arrayOf s, some (.array items) =>
    elementwise (fun item => s.accepts item.kind) (typeOffence s.name)
      ⟨.valid, t.name, t.name, path, "Valid type"⟩ items path
  | .arrayOf _, some v => [typeOffence t.name v path]

def rangeVerdict (bounds : Bounds) (value : Option Json) (path : Path) : Verdict :=
  let verdict (code : VerdictCode) (message : String) : Verdict :=
    ⟨code, "in range " ++ bounds.text, Json.shownOrAbsent value, path, message⟩
  match value with
  | some (.number x) =>
    if bounds.isBelow x then verdict .invalidRange "Value is below the minimum"
    else if bounds.isAbove x then verdict .invalidRange "Value is above the maximum"
    else verdict .valid "Value is within the range"
  | _ => verdict .invalidRange "Value is not numeric"

def lengthVerdict (bounds : Bounds) (value : Option Json) (path : Path) : Verdict :=
  let verdict (code : VerdictCode) (received message : String) : Verdict :=
    ⟨code, "in length " ++ bounds.text, received, path, message⟩
  match value.bind Json.size? with
  | none => verdict .invalidLength (Json.shownOrAbsent value) "Value has no length"
  | some size =>
    let n := Number.integer size
    if bounds.isBelow n then
      verdict .invalidLength (toString size) "Value is below the minimum length"
    else if bounds.isAbove n then
      verdict .invalidLength (toString size) "Value is above the maximum length"
    else verdict .valid (toString size) "Value is within the length"

def matchesText (pattern : Pattern) (value : Json) : Bool := value.text?.any pattern.isMatch

def regexOffence (pattern : Pattern) (value : Json) (path : Path) : Verdict :=
  ⟨.invalidRegex, pattern.source, value.text?.getD value.kind.name, path,
    "Value does not match the regex"⟩

def regexVerdicts (pattern : Pattern) (value : Option Json) (path : Path) : List Verdict :=
  let whole (v : Json) : Verdict :=
    ⟨.valid, "regex " ++ pattern.source, v.shown, path, "Value matches the regex"⟩
  match value with
  | none =>
    [⟨.invalidRegex, pattern.source, "not defined", path, "Value does not match the regex"⟩]
  | some (.array items) =>
    elementwise (matchesText pattern) (regexOffence pattern) (whole (.array items)) items path
  | some v => if matchesText pattern v then [whole v] else [regexOffence pattern v path]

/-- The verdicts on a value, or on its absence, at a path. -/
def verdicts (c : Check) (value : Option Json) (path : Path) : List Verdict :=
  match c with
  | required flag => [requiredVerdict flag value path]
  | nullable flag => [nullableVerdict flag value path]
  | notBlank => [notBlankVerdict value path]
  | type t => typeVerdicts t value path
  | range bounds => [rangeVerdict bounds value path]
  | length bounds => [lengthVerdict bounds value path]
  | regex pattern => regexVerdicts pattern value path

/-- The verdicts that count in a run, and whether the field is decided by now: if it is absent, if
it is null and that is provided for, or if its type is `any`. -/
def contribution (c : Check) (value : Option Json) (path : Path) : List Verdict × Bool :=
  match c, value with
  | required _, _ => (c.verdicts value path, value.isNone)
  | _, none => ([], true)
  | nullable _, some v => if v.isNull then (c.verdicts value path, true) else ([], false)
  | notBlank, some _ => (c.verdicts value path, false)
  | type t, some _ => if t.isAny then ([], true) else (c.verdicts value path, false)
  | _, some v => (if c.appliesTo v.kind then c.verdicts value path else [], false)

/-- The check for a constraint that a field declares. -/
def ofConstraint? (spec : FieldSpec) : ConstraintKind → Option Check
  | .required => spec.required.map required
  | .nullable => spec.nullable.map nullable
  | .notBlank => if spec.notBlank then some notBlank else none
  | .type => some (type spec.type)
  | .range => spec.range.map range
  | .length => spec.length.map length
  | .regex => spec.regex.map regex
  | .keyLimiter => none

/-- The checks of a field, in the order of execution. -/
def ofSpec (spec : FieldSpec) : List Check :=
  ConstraintKind.fieldOrder.filterMap (ofConstraint? spec)

end Check

end PayloadCheck
