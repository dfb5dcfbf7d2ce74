import PayloadCheck.Regex.Escape

/-!
# Bracketed classes

A bracketed class is a union of characters, ranges, named classes and nested classes, and unions
can be combined by `&&`, `--` and `~~`, which all bind alike and to the left.
-/

namespace PayloadCheck

namespace Regex

/-- A set read so far, with how many items it is the union of and how deep they nest. -/
structure Gathered where
  codes : CodeSet := .empty
  items : Nat := 0
  depth : Nat := 0

namespace Gathered

def add (g : Gathered) (s : CodeSet) (depth : Nat) : Gathered :=
  ⟨g.codes.union s, g.items + 1, max g.depth depth⟩

/-- A union of several items is one level deeper than they are. -/
def height (g : Gathered) : Nat := if g.items ≤ 1 then g.depth else g.depth + 1

end Gathered

inductive Combination where
  | both
  | without
  | either

/-- A class whose closing bracket has not come yet. -/
structure OpenClass where
  negated : Bool
  pending : Option (Combination × CodeSet × Nat)
  gathered : Gathered

namespace OpenClass

def fold (flags : Flags) (s : CodeSet) : CodeSet :=
  if !flags.caseless then s
  else if flags.unicode then s.foldCase
  else s.foldAsciiCase

/-- The complement, where it is asked for; without the Unicode flag it would hold parts of
characters and is refused. -/
def negate (flags : Flags) (negated : Bool) (s : CodeSet) : Option CodeSet :=
  if !negated then some s
  else if flags.unicode then some s.complement
  else none

/-- The set up to here and its depth, with the pending operator applied. -/
def combined (flags : Flags) (o : OpenClass) : CodeSet × Nat :=
  match o.pending with
  | none => (o.gathered.codes, o.gathered.height)
  | some (combination, left, depth) =>
    let l := fold flags left
    let r := fold flags o.gathered.codes
    (match combination with
      | .both => l.inter r
      | .without => l.diff r
      | .either => l.symmDiff r,
     max depth o.gathered.height + 1)

def combine (flags : Flags) (o : OpenClass) (combination : Combination) : OpenClass :=
  let (s, depth) := o.combined flags
  { o with pending := some (combination, s, depth), gathered := {} }

def add (o : OpenClass) (s : CodeSet) (depth : Nat) : OpenClass :=
  { o with gathered := o.gathered.add s depth }

/-- The set of a class that is now closed. -/
def close (flags : Flags) (o : OpenClass) : Option (CodeSet × Nat) :=
  let (s, depth) := o.combined flags
  (negate flags o.negated (fold flags s)).map fun s => (s, depth + 1)

end OpenClass

namespace Class

/-- Hyphens at the start of a class stand for themselves. -/
def leadingHyphens (flags : Flags) (cs : List Char) (o : OpenClass) : OpenClass × List Char :=
  match cs with
  | '-' :: rest => leadingHyphens flags (Scan.skip flags rest) (o.add (.range 45 45) 0)
  | _ => (o, cs)
termination_by cs.length
decreasing_by exact Nat.lt_succ_of_le (Scan.length_skip_le _ _)

/-- The start of a class, after its bracket. A closing bracket that comes first stands for
itself. -/
def start (flags : Flags) (cs : List Char) : OpenClass × List Char :=
  let (negated, cs) :=
    match Scan.skip flags cs with
    | '^' :: rest => (true, Scan.skip flags rest)
    | rest => (false, rest)
  let (o, cs) := leadingHyphens flags cs ⟨negated, none, {}⟩
  match cs with
  | ']' :: rest =>
    if o.gathered.items = 0 then (o.add (.range 93 93) 0, Scan.skip flags rest) else (o, cs)
  | _ => (o, cs)

/-- The name of an ASCII class, after `[:`; there is none unless `:]` follows the name. -/
def asciiName : List Char → Option (List Char × List Char)
  | ':' :: ']' :: rest => some ([], rest)
  | ':' :: _ => none
  | [] => none
  | c :: rest => (asciiName rest).map fun (name, left) => (c :: name, left)

/-- An ASCII class such as `[:alpha:]` or `[:^alpha:]`. -/
def ascii? (cs : List Char) : Option (CodeSet × Bool × List Char) :=
  match cs with
  | '[' :: ':' :: rest => do
    let (negated, rest) := match rest with
      | '^' :: rest => (true, rest)
      | rest => (false, rest)
    let (name, left) ← asciiName rest
    let s ← CodeSet.ofAsciiClass? (String.ofList name)
    some (s, negated, left)
  | _ => none

/-- One item of a class: an escape or a character that stands for itself. -/
def piece (flags : Flags) : List Char → Option (Piece × List Char)
  | [] => none
  | '\\' :: rest => Piece.read flags rest
  | c :: rest => some (.char c false, rest)

/-- The code point of an item that has to be a single character. -/
def code? (flags : Flags) : Piece → Option Nat
  | .char c _ => if flags.unicode || c.toNat < 128 then some c.toNat else none
  | _ => none

def itemSet? (flags : Flags) : Piece → Option CodeSet
  | .set s => some s
  | p => (code? flags p).map fun c => .range c c

/-- The character after a hyphen. In verbose mode blanks before it do not count, and a number
sign counts as one. -/
def afterHyphen (flags : Flags) (cs : List Char) : Option Char :=
  if flags.verbose then
    match cs.dropWhile Scan.isBlank with
    | '#' :: rest => (rest.dropWhile Scan.isBlank).head? <|> cs.head?
    | rest => rest.head? <|> cs.head?
  else cs.head?

/-- A character, an escaped set or a range. -/
def item (flags : Flags) (cs : List Char) : Option (CodeSet × List Char) := do
  let (first, rest) ← piece flags cs
  match Scan.skip flags rest with
  | [] => none
  | '-' :: more =>
    let next := afterHyphen flags more
    if next == some ']' || next == some '-' then
      some (← itemSet? flags first, '-' :: more)
    else
      let (second, left) ← piece flags (Scan.skip flags more)
      let low ← code? flags first
      let high ← code? flags second
      if low ≤ high then some (.range low high, left) else none
  | left => some (← itemSet? flags first, left)

/-- The classes that are open, the innermost first. -/
structure State where
  inner : OpenClass
  outer : List OpenClass

def step (flags : Flags) (state : State) (c : Char) (rest : List Char) :
    Option ((State ⊕ (CodeSet × Nat)) × List Char) :=
  let stay (inner : OpenClass) (left : List Char) :
      Option ((State ⊕ (CodeSet × Nat)) × List Char) :=
    some (.inl { state with inner := inner }, Scan.skip flags left)
  match c, rest with
  | '[', rest =>
    match ascii? ('[' :: rest) with
    | some (s, negated, left) => do
      let s ← OpenClass.negate flags negated (OpenClass.fold flags s)
      stay (state.inner.add s 0) left
    | none =>
      let (o, left) := start flags rest
      some (.inl ⟨o, state.inner :: state.outer⟩, Scan.skip flags left)
  | ']', rest => do
    let (s, depth) ← state.inner.close flags
    match state.outer with
    | [] => some (.inr (s, depth), rest)
    | o :: outer => some (.inl ⟨o.add s depth, outer⟩, Scan.skip flags rest)
  | '&', '&' :: rest => stay (state.inner.combine flags .both) rest
  | '-', '-' :: rest => stay (state.inner.combine flags .without) rest
  | '~', '~' :: rest => stay (state.inner.combine flags .either) rest
  | c, rest => do
    let (s, left) ← item flags (c :: rest)
    stay (state.inner.add s 0) left

/-- A class, after its opening bracket. -/
def read (flags : Flags) (cs : List Char) : Option ((CodeSet × Nat) × List Char) :=
  let (o, left) := start flags cs
  match Scan.run (step flags) ⟨o, []⟩ (Scan.skip flags left) with
  | some (.inr result, left) => some (result, left)
  | _ => none

end Class

end Regex

end PayloadCheck
