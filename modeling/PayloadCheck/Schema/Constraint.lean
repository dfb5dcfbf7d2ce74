/-!
# Kinds of constraints

`ConstraintKind.fieldOrder` is the order in which the checks of a field run; the limit on the
number of keys is checked once for the whole payload and before them.
-/

namespace PayloadCheck

inductive ConstraintKind where
  | keyLimiter
  | required
  | nullable
  | notBlank
  | type
  | range
  | length
  | regex
  deriving DecidableEq, Repr

namespace ConstraintKind

def all : List ConstraintKind :=
  [keyLimiter, required, nullable, notBlank, type, range, length, regex]

/-- The place in the order of execution. -/
def rank : ConstraintKind → Nat
  | keyLimiter => 0
  | required => 1
  | nullable => 2
  | notBlank => 3
  | type => 4
  | range => 5
  | length => 6
  | regex => 7

def fieldOrder : List ConstraintKind :=
  [required, nullable, notBlank, type, range, length, regex]

def name : ConstraintKind → String
  | keyLimiter => "key_limiter"
  | required => "required"
  | nullable => "nullable"
  | notBlank => "notBlank"
  | type => "type"
  | range => "range"
  | length => "length"
  | regex => "regex"

/-- The name in a serialised report, which has only lower case. -/
def tag : ConstraintKind → String
  | notBlank => "not_blank"
  | kind => kind.name

/-- The constraint that a key of a field specification declares. -/
def ofKey? : String → Option ConstraintKind
  | "type" => some type
  | "required" => some required
  | "nullable" => some nullable
  | "notBlank" => some notBlank
  | "not_blank" => some notBlank
  | "range" => some range
  | "length" => some length
  | "regex" => some regex
  | _ => none

end ConstraintKind

end PayloadCheck
