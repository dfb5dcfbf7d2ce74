import PayloadCheck.Json.Printer
import PayloadCheck.Text.Escaped

/-!
# Faults in a document

A fault is a cause and the spot where reading stood. A spot is the text still unread, so a reader
needs no counters: line and column are worked out once, from the whole text, when the message is
written (`Fault.message`). Columns count bytes from the last line break.
-/

namespace PayloadCheck

/-- What stood where another kind of value was asked for. -/
inductive Found where
  | null
  | bool (b : Bool)
  | number (n : Number)
  | string (s : String)
  | array
  | object
  | bareName
  deriving Repr

inductive Cause where
  | endInValue
  | endInString
  | endInArray
  | endInObject
  | noValue
  | misspeltWord
  | badNumber
  | numberTooLarge
  | badEscape
  | controlCharacter
  | loneSurrogate
  | missingSurrogate
  | noColon
  | noArraySeparator
  | noObjectSeparator
  | keyNotString
  | trailingComma
  | trailingText
  | nestedTooDeep
  | unexpected (found : Found) (wanted : String)
  | outOfRange (n : Int) (wanted : String)
  | unknownName (name : String) (known : List String)
  | unknownField (name : String) (known : List String)
  | repeatedField (name : String)
  | missingField (name : String)
  | tooShort (length : Nat) (wanted : String)
  | noAlternative (wanted : String)
  deriving Repr

/-- A fault that concerns a whole object or array is `pending` until its closing bracket has been
looked for. -/
inductive Spot where
  | fixed (unread : List Char) (ahead : Nat)
  | pending (unread : List Char)
  deriving Repr

structure Fault where
  cause : Cause
  spot : Spot
  deriving Repr

namespace Found

def text : Found → String
  | null => "null"
  | bool b => "boolean `" ++ (if b then "true" else "false") ++ "`"
  | number (.integer n) => "integer `" ++ (Number.integer n).text ++ "`"
  | number (.double x) => "floating point `" ++ (Number.double x).text ++ "`"
  | string s => "string " ++ escaped s
  | array => "sequence"
  | object => "map"
  | bareName => "unit variant"

end Found

/-- The names in backticks, as the end of a sentence. -/
def alternatives : List String → String
  | [a, b] => "expected `" ++ a ++ "` or `" ++ b ++ "`"
  | names => "expected one of " ++ ", ".intercalate (names.map fun a => "`" ++ a ++ "`")

namespace Cause

def text : Cause → String
  | endInValue => "EOF while parsing a value"
  | endInString => "EOF while parsing a string"
  | endInArray => "EOF while parsing a list"
  | endInObject => "EOF while parsing an object"
  | noValue => "expected value"
  | misspeltWord => "expected ident"
  | badNumber => "invalid number"
  | numberTooLarge => "number out of range"
  | badEscape => "invalid escape"
  | controlCharacter => "control character (\\u0000-\\u001F) found while parsing a string"
  | loneSurrogate => "lone leading surrogate in hex escape"
  | missingSurrogate => "unexpected end of hex escape"
  | noColon => "expected `:`"
  | noArraySeparator => "expected `,` or `]`"
  | noObjectSeparator => "expected `,` or `\x7d`"
  | keyNotString => "key must be a string"
  | trailingComma => "trailing comma"
  | trailingText => "trailing characters"
  | nestedTooDeep => "recursion limit exceeded"
  | unexpected found wanted => "invalid type: " ++ found.text ++ ", expected " ++ wanted
  | outOfRange n wanted =>
    "invalid value: integer `" ++ (Number.integer n).text ++ "`, expected " ++ wanted
  | unknownName name known => "unknown variant `" ++ name ++ "`, " ++ alternatives known
  | unknownField name known => "unknown field `" ++ name ++ "`, " ++ alternatives known
  | repeatedField name => "duplicate field `" ++ name ++ "`"
  | missingField name => "missing field `" ++ name ++ "`"
  | tooShort length wanted => "invalid length " ++ toString length ++ ", expected " ++ wanted
  | noAlternative wanted => "data did not match any variant of untagged enum " ++ wanted

end Cause

def byteCount (s : List Char) : Nat := s.foldr (fun c n => c.utf8Size + n) 0

structure Position where
  line : Nat
  column : Nat
  deriving DecidableEq, Repr

/-- The position after the first `bytes` bytes of a text. -/
def Position.after (bytes : Nat) : List Char → Position → Position
  | [], p => p
  | c :: rest, p =>
    if bytes < c.utf8Size then { p with column := p.column + bytes }
    else if c = '\n' then after (bytes - 1) rest ⟨p.line + 1, 0⟩
    else after (bytes - c.utf8Size) rest { p with column := p.column + c.utf8Size }

namespace Fault

/-- A fault at what has been read. -/
def here (cause : Cause) (unread : List Char) : Fault := ⟨cause, .fixed unread 0⟩

/-- A fault at the byte that comes next, if there is one. -/
def next (cause : Cause) (unread : List Char) : Fault := ⟨cause, .fixed unread 1⟩

/-- The reason and, once it is fixed, the place. -/
def message (document : List Char) (fault : Fault) : String :=
  match fault.spot with
  | .pending _ => fault.cause.text
  | .fixed unread ahead =>
    let bytes := byteCount document - (byteCount unread - ahead)
    let p := Position.after bytes document ⟨1, 0⟩
    fault.cause.text ++ " at line " ++ toString p.line ++ " column " ++ toString p.column

end Fault

end PayloadCheck
