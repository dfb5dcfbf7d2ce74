import PayloadCheck.Unicode.Property

/-!
# Escaped text

`escaped` shows a text between quotes so that it fits on a line and can be told apart from its
surroundings: quotes, backslashes and the usual controls get a backslash, and whatever cannot be
seen on its own is given by its code point.
-/

namespace PayloadCheck

/-- Controls, formats, separators and code points without a character. -/
def unprintable : CodeSet :=
  CodeSet.ofCategories (Category.others ++ Category.separators)

/-- Characters that only extend the one before them. -/
def combining : CodeSet := Property.graphemeExtend.codes

def escapedChar (c : Char) : List Char :=
  if c = '"' then ['\\', '"']
  else if c = '\\' then ['\\', '\\']
  else if c = '\n' then ['\\', 'n']
  else if c = '\r' then ['\\', 'r']
  else if c = '\t' then ['\\', 't']
  else if c.toNat = 0 then ['\\', '0']
  else if c ≠ ' ' && (unprintable.contains c.toNat || combining.contains c.toNat) then
    ['\\', 'u', '\x7b'] ++ Nat.toDigits 16 c.toNat ++ ['\x7d']
  else [c]

def escaped (s : String) : String :=
  String.ofList ('"' :: s.toList.flatMap escapedChar ++ ['"'])

end PayloadCheck
