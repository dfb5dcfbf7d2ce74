/-!
# Verdicts

A verdict is what one check says about one place of a payload. Its path is a key, with an index
behind it where an element of an array is meant, or a list of keys where several are.
-/

namespace PayloadCheck

inductive PathSegment where
  | key (name : String)
  | index (i : Nat)
  deriving DecidableEq, Repr

abbrev Path := List PathSegment

namespace PathSegment

def text : PathSegment → String
  | key name => name
  | index i => "[" ++ toString i ++ "]"

end PathSegment

namespace Path

/-- Appends the text of a segment. A key is set off by a dot from the text before it, if there is
any. -/
def append (before : String) : PathSegment → String
  | .key name => if before.isEmpty then name else before ++ "." ++ name
  | segment => before ++ segment.text

def text (p : Path) : String := p.foldl append ""

end Path

inductive VerdictCode where
  | valid
  | invalidType
  | invalidRequired
  | invalidNullable
  | invalidRange
  | invalidLength
  | invalidRegex
  | invalidKeyLimiter
  | notBlank
  deriving DecidableEq, Repr

namespace VerdictCode

def all : List VerdictCode :=
  [valid, invalidType, invalidRequired, invalidNullable, invalidRange, invalidLength,
    invalidRegex, invalidKeyLimiter, notBlank]

def name : VerdictCode → String
  | valid => "valid"
  | invalidType => "invalid_type"
  | invalidRequired => "invalid_required"
  | invalidNullable => "invalid_nullable"
  | invalidRange => "invalid_range"
  | invalidLength => "invalid_length"
  | invalidRegex => "invalid_regex"
  | invalidKeyLimiter => "invalid_key_limiter"
  | notBlank => "not_blank"

def isValid (c : VerdictCode) : Bool := c = valid

end VerdictCode

structure Verdict where
  code : VerdictCode
  expected : String
  received : String
  path : Path
  message : String
  deriving DecidableEq, Repr

namespace Verdict

def isValid (v : Verdict) : Bool := v.code.isValid

/-- The key that the path starts with. -/
def field? (v : Verdict) : Option String :=
  match v.path with
  | .key name :: _ => some name
  | _ => none

def text (v : Verdict) : String :=
  "[" ++ v.code.name ++ "] " ++ Path.text v.path ++ ": expected " ++ v.expected ++
    ", received " ++ v.received ++ " (" ++ v.message ++ ")"

/-- The text of a verdict that stopped a run. -/
def failureText (v : Verdict) : String := "validation failed: " ++ v.text

end Verdict

end PayloadCheck
