import PayloadCheck.Regex.Scan

/-!
# Escapes

What a backslash in a pattern starts: a character, a set of characters or an anchor. A letter has
a meaning or is refused, a digit is refused, and any other ASCII character stands for itself.
-/

namespace PayloadCheck

namespace Regex

inductive Piece where
  /-- A character; `byte` tells that it was written as a two-digit byte. -/
  | char (c : Char) (byte : Bool)
  | set (s : CodeSet)
  | anchor (a : Anchor)

namespace Piece

/-- `count` hexadecimal digits. -/
def fixedHex (flags : Flags) (value : Nat) : Nat → List Char → Option (Nat × List Char)
  | 0, cs => some (value, cs)
  | count + 1, cs =>
    match Scan.skip flags cs with
    | [] => none
    | c :: rest => do
      let d ← Scan.hexDigit? c
      fixedHex flags (16 * value + d) count rest

/-- The value of hexadecimal digits, of which there has to be one. -/
def hexValue (digits : List Char) : Option Nat := do
  let values ← digits.mapM Scan.hexDigit?
  if values.isEmpty then none else some (values.foldl (fun n d => 16 * n + d) 0)

/-- A character by its code point: `count` digits, or any number of them in braces. -/
def hex (flags : Flags) (count : Nat) (cs : List Char) : Option (Piece × List Char) :=
  match Scan.skip flags cs with
  | '\x7b' :: rest => do
    let (digits, left) ← Scan.untilBrace flags false rest
    let c ← Scan.charOf? (← hexValue digits)
    some (char c false, left)
  | rest => do
    let (code, left) ← fixedHex flags 0 count rest
    let c ← Scan.charOf? code
    some (char c (count == 2), left)

/-- Cuts a text at the first occurrence of a separator. -/
def cutAt (separator : List Char) : List Char → Option (List Char × List Char)
  | [] => none
  | c :: rest =>
    if separator.isPrefixOf (c :: rest) then some ([], (c :: rest).drop separator.length)
    else (cutAt separator rest).map fun (left, right) => (c :: left, right)

/-- The set that a name in braces stands for, and whether the name asks for its complement. -/
def namedSet (name : List Char) : Option (CodeSet × Bool) :=
  match cutAt ['!', '='] name with
  | some (property, value) =>
    (CodeSet.valued? (String.ofList property) (String.ofList value)).map fun s => (s, true)
  | none =>
    match cutAt [':'] name <|> cutAt ['='] name with
    | some (property, value) =>
      (CodeSet.valued? (String.ofList property) (String.ofList value)).map fun s => (s, false)
    | none => (CodeSet.named? (String.ofList name)).map fun s => (s, false)

/-- A set by its property, by a single letter or by a name in braces. -/
def property (flags : Flags) (negated : Bool) (cs : List Char) : Option (Piece × List Char) := do
  let ((s, negation), left) ←
    match Scan.skip flags cs with
    | [] => none
    | '\\' :: _ => none
    | '\x7b' :: rest => do
      let (name, left) ← Scan.untilBrace flags false rest
      some (← namedSet name, left)
    | c :: rest => do
      let s ← CodeSet.named? (String.singleton c)
      some ((s, false), rest)
  if flags.unicode then
    let s := if flags.caseless then s.foldCase else s
    some (set (if negated != negation then s.complement else s), left)
  else none

/-- Digits, blanks or word characters. Without the Unicode flag the complement, which would hold
parts of characters, is refused. -/
def perl (flags : Flags) (unicode ascii : CodeSet) (negated : Bool) : Option Piece :=
  if flags.unicode then some (set (if negated then unicode.complement else unicode))
  else if negated then none
  else some (set ascii)

def edge (flags : Flags) (e : WordEdge) : Piece :=
  anchor (if flags.unicode then .word e else .asciiWord e)

def isEdgeLetter (c : Char) : Bool := c.isAlpha || c = '-'

/-- The word boundary, with the name in braces that may follow it. Braces that do not start with
a letter or a hyphen belong to a repetition. -/
def boundary (flags : Flags) (cs : List Char) : Option (Piece × List Char) :=
  match cs with
  | '\x7b' :: rest =>
    match Scan.skip flags rest with
    | [] => none
    | c :: more =>
      if isEdgeLetter c then do
        let (name, left) ← Scan.untilBrace flags false (c :: more)
        match String.ofList name with
        | "start" => some (edge flags .start, left)
        | "end" => some (edge flags .finish, left)
        | "start-half" => some (edge flags .startHalf, left)
        | "end-half" => some (edge flags .finishHalf, left)
        | _ => none
      else some (edge flags .boundary, cs)
  | _ => some (edge flags .boundary, cs)

/-- What follows a backslash. -/
def read (flags : Flags) : List Char → Option (Piece × List Char)
  | [] => none
  | c :: rest =>
    match c with
    | 'x' => hex flags 2 rest
    | 'u' => hex flags 4 rest
    | 'U' => hex flags 8 rest
    | 'p' => property flags false rest
    | 'P' => property flags true rest
    | 'd' => (perl flags CodeSet.digit CodeSet.asciiDigit false).map fun p => (p, rest)
    | 'D' => (perl flags CodeSet.digit CodeSet.asciiDigit true).map fun p => (p, rest)
    | 's' => (perl flags CodeSet.space CodeSet.asciiSpace false).map fun p => (p, rest)
    | 'S' => (perl flags CodeSet.space CodeSet.asciiSpace true).map fun p => (p, rest)
    | 'w' => (perl flags CodeSet.word CodeSet.asciiWord false).map fun p => (p, rest)
    | 'W' => (perl flags CodeSet.word CodeSet.asciiWord true).map fun p => (p, rest)
    | 'a' => some (char '\x07' false, rest)
    | 'f' => some (char '\x0c' false, rest)
    | 't' => some (char '\t' false, rest)
    | 'n' => some (char '\n' false, rest)
    | 'r' => some (char '\r' false, rest)
    | 'v' => some (char '\x0b' false, rest)
    | 'A' => some (anchor .textStart, rest)
    | 'z' => some (anchor .textEnd, rest)
    | 'b' => boundary flags rest
    | 'B' => some (edge flags .inside, rest)
    | '<' => some (edge flags .start, rest)
    | '>' => some (edge flags .finish, rest)
    | c => if c.toNat < 128 && !c.isAlphanum then some (char c false, rest) else none

end Piece

end Regex

end PayloadCheck
