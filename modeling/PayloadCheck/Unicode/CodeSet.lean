/-!
# Sets of code points

A set is a list of closed ranges. `CodeSet.ofRanges` drops the empty ones, brings the others into
ascending order and joins those that touch; the operations return lists in that form.
-/

namespace PayloadCheck

structure CodeSet where
  ranges : List (Nat × Nat)
  deriving DecidableEq, Repr

namespace CodeSet

/-- The last code point. -/
def last : Nat := 0x10FFFF

def empty : CodeSet := ⟨[]⟩

def all : CodeSet := ⟨[(0, last)]⟩

def range (low high : Nat) : CodeSet := ⟨[(low, high)]⟩

def contains (s : CodeSet) (code : Nat) : Bool :=
  s.ranges.any fun r => r.1 ≤ code && code ≤ r.2

/-- Joins ascending ranges, of which `current` is the first. -/
def join (current : Nat × Nat) : List (Nat × Nat) → List (Nat × Nat)
  | [] => [current]
  | r :: rest =>
    if r.1 ≤ current.2 + 1 then join (current.1, max current.2 r.2) rest
    else current :: join r rest

/-- The ranges that are not empty, by where they start. -/
def sorted (ranges : List (Nat × Nat)) : List (Nat × Nat) :=
  (ranges.filter fun r => r.1 ≤ r.2).mergeSort fun a b => a.1 ≤ b.1

def ofRanges (ranges : List (Nat × Nat)) : CodeSet :=
  match sorted ranges with
  | [] => empty
  | r :: rest => ⟨join r rest⟩

def union (s t : CodeSet) : CodeSet := ofRanges (s.ranges ++ t.ranges)

/-- The gaps between ascending ranges, from `start` on. -/
def gaps (start : Nat) : List (Nat × Nat) → List (Nat × Nat)
  | [] => if start ≤ last then [(start, last)] else []
  | r :: rest =>
    if start < r.1 then (start, r.1 - 1) :: gaps (r.2 + 1) rest else gaps (r.2 + 1) rest

def complement (s : CodeSet) : CodeSet := ⟨gaps 0 s.ranges⟩

def inter (s t : CodeSet) : CodeSet := (s.complement.union t.complement).complement

def diff (s t : CodeSet) : CodeSet := (s.complement.union t).complement

/-- What is in exactly one of two sets. -/
def symmDiff (s t : CodeSet) : CodeSet := (s.diff t).union (t.diff s)

def unions (sets : List CodeSet) : CodeSet := ofRanges (sets.flatMap CodeSet.ranges)

/-- Whether all members are ASCII. -/
def isAscii (s : CodeSet) : Bool := s.ranges.all fun r => r.2 < 128

end CodeSet

end PayloadCheck
