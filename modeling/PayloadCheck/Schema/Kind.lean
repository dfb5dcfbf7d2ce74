import PayloadCheck.Json.Value

/-!
# Kinds and types

The kind of a value is seen on the value itself: integers and doubles are told apart by how they
are written. A field declares a type: one of the kinds, `any`, or an array of such elements.
-/

namespace PayloadCheck

inductive ValueKind where
  | null
  | boolean
  | integer
  | double
  | string
  | array
  | object
  deriving DecidableEq, Repr

namespace ValueKind

def name : ValueKind → String
  | null => "null"
  | boolean => "boolean"
  | integer => "integer"
  | double => "double"
  | string => "string"
  | array => "array"
  | object => "object"

def isNumeric (k : ValueKind) : Bool := k = integer || k = double

/-- Strings have characters and arrays have elements to count. -/
def isSized (k : ValueKind) : Bool := k = string || k = array

/-- Scalars with a text that a pattern can be matched against. -/
def isTextual (k : ValueKind) : Bool := k = string || k = integer || k = double

end ValueKind

def Json.kind : Json → ValueKind
  | null => .null
  | bool _ => .boolean
  | number (.integer _) => .integer
  | number (.double _) => .double
  | string _ => .string
  | array _ => .array
  | object _ => .object

inductive ScalarType where
  | null
  | string
  | integer
  | double
  | boolean
  | array
  | object
  | any
  deriving DecidableEq, Repr

namespace ScalarType

def name : ScalarType → String
  | null => "null"
  | string => "string"
  | integer => "integer"
  | double => "double"
  | boolean => "boolean"
  | array => "array"
  | object => "object"
  | any => "any"

/-- The type with a name; `float` is another name of `double`. -/
def ofName? : String → Option ScalarType
  | "null" => some null
  | "string" => some string
  | "integer" => some integer
  | "double" => some double
  | "float" => some double
  | "boolean" => some boolean
  | "array" => some array
  | "object" => some object
  | "any" => some any
  | _ => none

def accepts (t : ScalarType) (k : ValueKind) : Bool :=
  match t with
  | any => true
  | null => k = .null
  | string => k = .string
  | integer => k = .integer
  | double => k = .double
  | boolean => k = .boolean
  | array => k = .array
  | object => k = .object

end ScalarType

inductive FieldType where
  | scalar (t : ScalarType)
  | arrayOf (t : ScalarType)
  deriving DecidableEq, Repr

namespace FieldType

def arrayMark : List Char := ['[', ']']

def name : FieldType → String
  | scalar t => t.name
  | arrayOf t => t.name ++ String.ofList arrayMark

/-- A type name, or the name of an element type with one pair of brackets after it. -/
def ofName? (name : String) : Option FieldType :=
  let cs := name.toList
  if arrayMark.isSuffixOf cs then
    (ScalarType.ofName? (String.ofList (cs.take (cs.length - arrayMark.length)))).map arrayOf
  else (ScalarType.ofName? name).map scalar

def isAny (t : FieldType) : Bool := t = scalar .any

end FieldType

end PayloadCheck
