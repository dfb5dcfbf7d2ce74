import PayloadCheck.Json.Reader
import PayloadCheck.Schema.Constraint
import PayloadCheck.Schema.Error
import PayloadCheck.Schema.Pattern

/-!
# Templates

A template is a schema that has been found to be in order: its fields with their specifications,
in the order of the schema, no name twice. `Template.compile` is the only place where a schema is
examined; it stops at the first field that is not in order, and within a field at the first rule
that is broken.
-/

namespace PayloadCheck

/-- What a field declares; `none` where a constraint is not declared. -/
structure FieldSpec where
  type : FieldType
  required : Option Bool
  nullable : Option Bool
  notBlank : Bool
  range : Option Bounds
  length : Option Bounds
  regex : Option Pattern

namespace FieldSpec

def checkKeys (spec : Object) : Except Violation Unit :=
  match spec.keys.find? fun key => (ConstraintKind.ofKey? key).isNone with
  | some key => .error (.unknownConstraint key)
  | none => .ok ()

def typeOf (spec : Object) : Except Violation FieldType :=
  match spec.get? "type" with
  | none => .error .missingType
  | some (.string name) =>
    match FieldType.ofName? name with
    | some type => .ok type
    | none => .error (.invalidType (.string name))
  | some found => .error (.invalidType found)

/-- A flag under the first of its spellings that is there. -/
def flagOf (spec : Object) : List String → Except Violation (Option Bool)
  | [] => .ok none
  | key :: others =>
    match spec.get? key with
    | none => flagOf spec others
    | some (.bool b) => .ok (some b)
    | some found => .error (.flagNotBoolean key found.kind)

def boundOf (key : String) : Json → Except Violation (Option Number)
  | .null => .ok none
  | .number n => .ok (some n)
  | found => .error (.boundNotNumeric key found)

def boundsOf (spec : Object) (key : String) : Except Violation (Option Bounds) :=
  match spec.get? key with
  | none => .ok none
  | some (.array [first, second]) => do
    let bounds : Bounds := ⟨← boundOf key first, ← boundOf key second⟩
    if bounds.isInverted then .error (.boundsInverted key bounds) else .ok (some bounds)
  | some _ => .error (.boundsNotPair key)

def lengthOf (spec : Object) : Except Violation (Option Bounds) := do
  match ← boundsOf spec "length" with
  | none => .ok none
  | some bounds =>
    if bounds.hasNegative then .error (.negativeLength bounds) else .ok (some bounds)

def regexOf (spec : Object) : Except Violation (Option Pattern) :=
  match spec.get? "regex" with
  | none => .ok none
  | some (.string source) =>
    match Pattern.compile? source with
    | some pattern => .ok (some pattern)
    | none => .error (.regexInvalid source)
  | some found => .error (.regexNotString found.kind)

def ofObject (spec : Object) : Except Violation FieldSpec := do
  checkKeys spec
  let type ← typeOf spec
  let required ← flagOf spec ["required"]
  let nullable ← flagOf spec ["nullable"]
  let notBlank ← flagOf spec ["notBlank", "not_blank"]
  let range ← boundsOf spec "range"
  let length ← lengthOf spec
  let regex ← regexOf spec
  return ⟨type, required, nullable, notBlank.getD false, range, length, regex⟩

def ofJson (raw : Json) : Except Violation FieldSpec :=
  match raw.toObject? with
  | some spec => ofObject spec
  | none => .error (.notAnObject raw.kind)

end FieldSpec

structure Template where
  fields : List (String × FieldSpec)
  distinct : (fields.map Prod.fst).Nodup

namespace Template

def names (t : Template) : List String := t.fields.map Prod.fst

def size (t : Template) : Nat := t.fields.length

def field? (t : Template) (name : String) : Option FieldSpec := t.fields.lookup name

def contains (t : Template) (name : String) : Bool := (t.field? name).isSome

/-- The specifications of the members, under the same names. -/
def fieldsOf : (members : List (String × Json)) →
    Except SchemaError
      { fields : List (String × FieldSpec) // fields.map Prod.fst = members.map Prod.fst }
  | [] => .ok ⟨[], rfl⟩
  | (name, raw) :: rest =>
    match FieldSpec.ofJson raw with
    | .error violation => .error (.inField name violation)
    | .ok spec =>
      match fieldsOf rest with
      | .error e => .error e
      | .ok ⟨fields, h⟩ => .ok ⟨(name, spec) :: fields, by simp [h]⟩

def compile (schema : Object) : Except SchemaError Template :=
  match fieldsOf schema.members with
  | .error e => .error e
  | .ok ⟨fields, h⟩ => .ok ⟨fields, h ▸ schema.distinct⟩

def ofJson (schema : Json) : Except SchemaError Template :=
  match schema.toObject? with
  | some o => compile o
  | none => .error (.rootNotAnObject schema.kind)

/-- The object that a schema text holds. -/
def readSchema (text : String) : Except SchemaError Object :=
  match Json.parse text with
  | .error reason => .error (.notJson reason)
  | .ok schema =>
    match schema.toObject? with
    | some o => .ok o
    | none => .error (.rootNotAnObject schema.kind)

def ofText (text : String) : Except SchemaError Template :=
  match readSchema text with
  | .error e => .error e
  | .ok schema => compile schema

end Template

end PayloadCheck
