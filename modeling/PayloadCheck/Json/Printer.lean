import PayloadCheck.Json.Value

/-!
# Printing JSON

`Json.render` writes a value without blanks. Inside a string only the quote, the backslash and
the control characters are escaped.
-/

namespace PayloadCheck

namespace Json

def hexDigit (n : Nat) : Char := Nat.digitChar n

/-- How a character is written between quotes. -/
def quotedChar (c : Char) : List Char :=
  if c = '"' then ['\\', '"']
  else if c = '\\' then ['\\', '\\']
  else if c = '\n' then ['\\', 'n']
  else if c = '\r' then ['\\', 'r']
  else if c = '\t' then ['\\', 't']
  else if c.toNat = 8 then ['\\', 'b']
  else if c.toNat = 12 then ['\\', 'f']
  else if c.toNat < 32 then
    ['\\', 'u', '0', '0', hexDigit (c.toNat / 16), hexDigit (c.toNat % 16)]
  else [c]

def quoted (s : String) : List Char := '"' :: s.toList.flatMap quotedChar ++ ['"']

mutual

def chars : Json → List Char
  | null => ['n', 'u', 'l', 'l']
  | bool true => ['t', 'r', 'u', 'e']
  | bool false => ['f', 'a', 'l', 's', 'e']
  | number n => n.chars
  | string s => quoted s
  | array [] => ['[', ']']
  | array (item :: rest) => '[' :: item.chars ++ itemChars rest
  | object [] => ['\x7b', '\x7d']
  | object ((key, value) :: rest) => '\x7b' :: quoted key ++ ':' :: value.chars ++ memberChars rest

/-- The items after the first, with the closing bracket. -/
def itemChars : List Json → List Char
  | [] => [']']
  | item :: rest => ',' :: item.chars ++ itemChars rest

/-- The members after the first, with the closing brace. -/
def memberChars : List (String × Json) → List Char
  | [] => ['\x7d']
  | (key, value) :: rest => ',' :: quoted key ++ ':' :: value.chars ++ memberChars rest

end

def render (j : Json) : String := String.ofList j.chars

end Json

end PayloadCheck
