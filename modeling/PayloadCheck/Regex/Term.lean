import PayloadCheck.Regex.Anchor

/-!
# Terms

A term is a pattern as written, with its character classes already worked out. Terms that nest
too deep (`Term.depth`) or that would become too large when repetitions are written out
(`Term.size`) are not used.
-/

namespace PayloadCheck

namespace Regex

inductive Term where
  | empty
  /-- An inline change of flags, which reads nothing and cannot be repeated. -/
  | flags
  | anchor (a : Anchor)
  | one (s : CodeSet) (depth : Nat)
  | sequence (parts : List Term)
  | choice (branches : List Term)
  | repeated (t : Term) (least : Nat) (most : Option Nat)
  | group (t : Term)

namespace Term

/-- A sequence of one term is that term. -/
def ofParts : List Term → Term
  | [] => empty
  | [t] => t
  | parts => sequence parts

def ofBranches : List Term → Term
  | [] => empty
  | [t] => t
  | branches => choice branches

mutual

/-- How deep operators, groups and classes nest. -/
def depth : Term → Nat
  | one _ d => d
  | sequence parts => depths parts + 1
  | choice branches => depths branches + 1
  | repeated t _ _ => t.depth + 1
  | group t => t.depth + 1
  | _ => 0

def depths : List Term → Nat
  | [] => 0
  | t :: rest => max t.depth (depths rest)

end

mutual

/-- Whether a term reads no character, however often it is repeated. -/
def readsNothing : Term → Bool
  | one _ _ => false
  | sequence parts => allReadNothing parts
  | choice branches => allReadNothing branches
  | repeated t _ most => most == some 0 || t.readsNothing
  | group t => t.readsNothing
  | _ => true

def allReadNothing : List Term → Bool
  | [] => true
  | t :: rest => t.readsNothing && allReadNothing rest

end

/-- The bytes that one state of a compiled program takes. -/
def stateSize : Nat := 32

/-- The bytes that the states for one character of a set take. -/
def setSize (s : CodeSet) : Nat :=
  match s.ranges with
  | [(low, high)] => if low = high then stateSize * (Char.ofNat low).utf8Size else 2 * stateSize
  | ranges => if s.isAscii then 2 * stateSize + 8 * ranges.length else 2 * stateSize * ranges.length

/-- A term that reads nothing need not be repeated more than once. -/
def bounded (t : Term) (least : Nat) (most : Option Nat) : Nat × Option Nat :=
  if t.readsNothing then (min least 1, some (min (most.getD 1) 1)) else (least, most)

mutual

/-- The bytes that the compiled program takes. -/
def size : Term → Nat
  | empty => stateSize
  | flags => stateSize
  | anchor _ => stateSize
  | one s _ => setSize s
  | sequence parts => sizes parts
  | choice branches => sizes branches + 2 * stateSize
  | repeated t least most =>
    match t.bounded least most with
    | (least, some most) => t.size * most + stateSize * (most - least)
    | (least, none) => t.size * max least 1 + stateSize
  | group t => t.size + 2 * stateSize

def sizes : List Term → Nat
  | [] => 0
  | t :: rest => t.size + sizes rest

end

def depthLimit : Nat := 250

def sizeLimit : Nat := 10 * Nat.pow 2 20

def isUsable (t : Term) : Bool := t.depth ≤ depthLimit && t.size ≤ sizeLimit

end Term

end Regex

end PayloadCheck
