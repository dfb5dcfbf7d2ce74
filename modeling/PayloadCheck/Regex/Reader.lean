import PayloadCheck.Regex.Class
import PayloadCheck.Regex.Program

/-!
# Reading a pattern

`Reader.read` turns the text of a pattern into a term, or refuses it. Flags set inside a group
hold until the group ends, over all branches that follow; group names have to differ.
-/

namespace PayloadCheck

namespace Regex

namespace Reader

/-- What an open group returns to when it closes. -/
structure Frame where
  items : List Term
  branches : List Term
  flags : Flags

/-- The items and branches of the innermost group come last first. -/
structure State where
  flags : Flags
  items : List Term := []
  branches : List Term := []
  frames : List Frame := []
  names : List String := []

namespace State

def push (s : State) (t : Term) : State := { s with items := t :: s.items }

/-- The branches of the innermost group as one term. -/
def gathered (s : State) : Term :=
  Term.ofBranches ((Term.ofParts s.items.reverse :: s.branches).reverse)

def branch (s : State) : State :=
  { s with items := [], branches := Term.ofParts s.items.reverse :: s.branches }

def enter (s : State) (flags : Flags) : State :=
  { s with
    flags := flags, items := [], branches := []
    frames := ⟨s.items, s.branches, s.flags⟩ :: s.frames }

def leave (s : State) : Option State :=
  match s.frames with
  | [] => none
  | frame :: frames =>
    some { s with
      flags := frame.flags, items := .group s.gathered :: frame.items
      branches := frame.branches, frames := frames }

/-- Repeats the last item, which may not be missing or a mere change of flags. -/
def repeatLast (s : State) (least : Nat) (most : Option Nat) : Option State :=
  match s.items with
  | [] => none
  | .flags :: _ => none
  | t :: items => some { s with items := .repeated t least most :: items }

end State

/-! ## Single characters -/

def lineBreak : CodeSet := .range 10 10

def anyButLineBreak : CodeSet := lineBreak.complement

def anyButCrlf : CodeSet := (CodeSet.union lineBreak (.range 13 13)).complement

/-- The dot. Without the Unicode flag it would read parts of characters and is refused. -/
def dot (flags : Flags) : Option Term :=
  if !flags.unicode then none
  else if flags.dotAll then some (.one .all 0)
  else if flags.crlf then some (.one anyButCrlf 0)
  else some (.one anyButLineBreak 0)

def lineStart (flags : Flags) : Anchor :=
  if !flags.multiLine then .textStart else if flags.crlf then .crlfStart else .lineStart

def lineEnd (flags : Flags) : Anchor :=
  if !flags.multiLine then .textEnd else if flags.crlf then .crlfEnd else .lineEnd

/-- A byte that is no ASCII character is refused where characters are not meant. -/
def ofPiece (flags : Flags) : Piece → Option Term
  | .anchor a => some (.anchor a)
  | .set s => some (.one s 0)
  | .char c byte =>
    if !flags.unicode && byte && 128 ≤ c.toNat then none
    else some (.one (OpenClass.fold flags (.range c.toNat c.toNat)) 0)

/-! ## Repetitions -/

/-- A question mark right after a repetition makes it lazy, which does not change what matches. -/
def afterLazy : List Char → List Char
  | '?' :: rest => rest
  | cs => cs

/-- A count of at most 32 bits, with blanks around it. -/
def count (flags : Flags) (cs : List Char) : Option (Option Nat × List Char) :=
  let (ds, rest) := Scan.digits flags false (cs.dropWhile Scan.isBlank)
  let left := Scan.skip flags (rest.dropWhile Scan.isBlank)
  if ds.isEmpty then some (none, left)
  else
    let n := ds.foldl (fun n d => 10 * n + (d.toNat - 48)) 0
    if n < Nat.pow 2 32 then some (some n, left) else none

/-- The bounds of a repetition, after the opening brace. -/
def counts (flags : Flags) (cs : List Char) : Option ((Nat × Option Nat) × List Char) := do
  let (least, rest) ← count flags (Scan.skip flags cs)
  let least ← least
  match rest with
  | '\x7d' :: left => some ((least, some least), left)
  | ',' :: rest =>
    match Scan.skip flags rest with
    | '\x7d' :: left => some ((least, none), left)
    | rest =>
      let (most, rest) ← count flags rest
      let most ← most
      match rest with
      | '\x7d' :: left => if least ≤ most then some ((least, some most), left) else none
      | _ => none
  | _ => none

/-! ## Groups -/

/-- The effect of a flag letter. -/
def setFlag (flags : Flags) (on : Bool) : Char → Option Flags
  | 'i' => some { flags with caseless := on }
  | 'm' => some { flags with multiLine := on }
  | 's' => some { flags with dotAll := on }
  | 'x' => some { flags with verbose := on }
  | 'u' => some { flags with unicode := on }
  | 'R' => some { flags with crlf := on }
  | 'U' => some flags
  | _ => none

/-- Flag letters up to a colon or a closing bracket: each at most once, and at most one hyphen,
which turns off those after it and may not come last. -/
def flagLetters (seen : List Char) (flags : Flags) :
    List Char → Option (Flags × Char × List Char × List Char)
  | [] => none
  | c :: rest =>
    if c = ':' || c = ')' then
      if seen.head? == some '-' then none else some (flags, c, seen, rest)
    else if seen.contains c then none
    else if c = '-' then flagLetters (c :: seen) flags rest
    else do
      let flags ← setFlag flags (!seen.contains '-') c
      flagLetters (c :: seen) flags rest

def isNameChar (first : Bool) (c : Char) : Bool :=
  c = '_' || CodeSet.alphabetic.contains c.toNat ||
    (!first && (c = '.' || c = '[' || c = ']' || CodeSet.numeric.contains c.toNat))

/-- The name of a group, up to its closing bracket. -/
def groupName (first : Bool) : List Char → Option (List Char × List Char)
  | [] => none
  | c :: rest =>
    if c = '>' then if first then none else some ([], rest)
    else if isNameChar first c then
      (groupName false rest).map fun (name, left) => (c :: name, left)
    else none

def named (s : State) (cs : List Char) : Option (State × List Char) := do
  let (name, left) ← groupName true cs
  let name := String.ofList name
  if s.names.contains name then none
  else some ({ s.enter s.flags with names := name :: s.names }, left)

/-- What follows an opening bracket. Looking around is not offered. -/
def group (s : State) (cs : List Char) : Option (State × List Char) :=
  match Scan.skip s.flags cs with
  | '?' :: '=' :: _ => none
  | '?' :: '!' :: _ => none
  | '?' :: '<' :: '=' :: _ => none
  | '?' :: '<' :: '!' :: _ => none
  | '?' :: 'P' :: '<' :: rest => named s rest
  | '?' :: '<' :: rest => named s rest
  | '?' :: rest => do
    let (flags, closer, letters, left) ← flagLetters [] s.flags rest
    if closer = ':' then some (s.enter flags, left)
    else if letters.isEmpty then none
    else some ({ s with flags := flags, items := .flags :: s.items }, left)
  | rest => some (s.enter s.flags, rest)

/-! ## The whole pattern -/

def step (s : State) (c : Char) (rest : List Char) : Option ((State ⊕ Term) × List Char) := do
  let (next, left) ←
    match c with
    | '(' => group s rest
    | ')' => s.leave.map fun next => (next, rest)
    | '|' => some (s.branch, rest)
    | '[' => (Class.read s.flags rest).map fun ((codes, depth), left) =>
        (s.push (.one codes depth), left)
    | '?' => (s.repeatLast 0 (some 1)).map fun next => (next, afterLazy rest)
    | '*' => (s.repeatLast 0 none).map fun next => (next, afterLazy rest)
    | '+' => (s.repeatLast 1 none).map fun next => (next, afterLazy rest)
    | '\x7b' => do
      let ((least, most), left) ← counts s.flags rest
      let next ← s.repeatLast least most
      some (next, afterLazy (Scan.skip s.flags left))
    | '\\' => do
      let (piece, left) ← Piece.read s.flags rest
      some (s.push (← ofPiece s.flags piece), left)
    | '.' => (dot s.flags).map fun t => (s.push t, rest)
    | '^' => some (s.push (.anchor (lineStart s.flags)), rest)
    | '$' => some (s.push (.anchor (lineEnd s.flags)), rest)
    | c => (ofPiece s.flags (.char c false)).map fun t => (s.push t, rest)
  some (.inl next, Scan.skip next.flags left)

def read (flags : Flags) (pattern : List Char) : Option Term :=
  match Scan.run step { flags := flags } (Scan.skip flags pattern) with
  | some (.inl s, _) => if s.frames.isEmpty then some s.gathered else none
  | _ => none

end Reader

/-- A pattern ready to run, unless it is none or is too deep or too large. -/
def compile? (flags : Flags) (pattern : String) : Option (Program Leaf) :=
  (Reader.read flags pattern.toList).bind fun t =>
    if t.isUsable then some (Program.ofTerm t) else none

end Regex

end PayloadCheck
