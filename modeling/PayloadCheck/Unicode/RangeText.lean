import PayloadCheck.Unicode.CodeSet

/-!
# Tables as text

Tables of code points are kept as words of hexadecimal numbers: `41` is one code point, `41-5a` a
range, `100-12e/2` every second code point of a range. In a table of case pairs `41-5a+20` pairs
each code point of a range with the one that lies `20` further on.
-/

namespace PayloadCheck

namespace RangeText

/-- The parts of a text between the places where `separator` stands. -/
def parts (separator : Char) (text : String) : List String :=
  (text.toList.splitOn separator).map String.ofList

def words (text : String) : List String :=
  ((parts '\n' text).flatMap (parts ' ')).filter (· ≠ "")

def hexValue (c : Char) : Nat :=
  if c.isDigit then c.toNat - '0'.toNat else c.toNat - 'a'.toNat + 10

def hex (word : String) : Nat := word.toList.foldl (fun n c => 16 * n + hexValue c) 0

/-- The code points from `low` to `high` in steps of `step`. -/
def steps (low high step : Nat) : List Nat :=
  (List.range ((high - low) / step + 1)).map fun i => low + step * i

def ranges (word : String) : List (Nat × Nat) :=
  match parts '-' word with
  | [low, high] =>
    match parts '/' high with
    | [high, step] => (steps (hex low) (hex high) (hex step)).map fun c => (c, c)
    | _ => [(hex low, hex high)]
  | _ => [(hex word, hex word)]

/-- The classes of two that a word such as `41-5a+20` stands for. -/
def pairs (word : String) : List (List Nat) :=
  match parts '+' word with
  | [members, distance] =>
    (ranges members).flatMap fun r => (steps r.1 r.2 1).map fun c => [c, c + hex distance]
  | _ => []

/-- The class whose members a word such as `4b.6b.212a` lists. -/
def listed (word : String) : List Nat := (parts '.' word).map hex

end RangeText

def CodeSet.ofText (text : String) : CodeSet :=
  CodeSet.ofRanges ((RangeText.words text).flatMap RangeText.ranges)

end PayloadCheck
