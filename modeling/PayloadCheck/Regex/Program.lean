import PayloadCheck.Regex.Term

/-!
# Programs and how they run

A program is a term with its repetitions written out. Its leaves are single characters; while it
runs, each leaf is marked if some way through the text so far has just read a character there.
`Program.step` moves the marks over one character, which takes one walk over the program, so the
time to search a text grows with its length and not with the number of ways through it.
-/

namespace PayloadCheck

namespace Regex

inductive Program (α : Type) where
  | empty
  | anchor (a : Anchor)
  | one (leaf : α)
  | seq (p q : Program α)
  | alt (p q : Program α)
  /-- One or more times. -/
  | plus (p : Program α)

/-- A leaf of a running program: whether it is marked, and what it reads. -/
structure Leaf where
  marked : Bool
  codes : CodeSet

namespace Program

/-! ## Writing terms out -/

/-- Exactly `n` times; both halves are written out in the same way, which keeps programs flat. -/
def power (p : Program α) (n : Nat) : Program α :=
  if n = 0 then empty
  else if n = 1 then p
  else seq (power p (n / 2)) (power p (n - n / 2))

def optional (p : Program α) : Program α := alt empty p

mutual

def ofTerm : Term → Program Leaf
  | .anchor a => anchor a
  | .one s _ => one ⟨false, s⟩
  | .sequence parts => ofParts parts
  | .choice branches => ofBranches branches
  | .repeated t least most =>
    let p := ofTerm t
    match t.bounded least most with
    | (least, some most) => seq (power p least) (power (optional p) (most - least))
    | (0, none) => optional (plus p)
    | (least + 1, none) => seq (power p least) (plus p)
  | .group t => ofTerm t
  | _ => empty

def ofParts : List Term → Program Leaf
  | [] => empty
  | [t] => ofTerm t
  | t :: rest => seq (ofTerm t) (ofParts rest)

def ofBranches : List Term → Program Leaf
  | [] => empty
  | [t] => ofTerm t
  | t :: rest => alt (ofTerm t) (ofBranches rest)

end

/-! ## Running -/

/-- Whether the program can be passed at a gap without reading. -/
def passes (g : Gap) : Program α → Bool
  | empty => true
  | anchor a => a.holds g
  | one _ => false
  | seq p q => p.passes g && q.passes g
  | alt p q => p.passes g || q.passes g
  | plus p => p.passes g

/-- Whether a marked leaf leads to the end of the program at a gap. -/
def finishes (g : Gap) : Program Leaf → Bool
  | empty => false
  | anchor _ => false
  | one leaf => leaf.marked
  | seq p q => (p.finishes g && q.passes g) || q.finishes g
  | alt p q => p.finishes g || q.finishes g
  | plus p => p.finishes g

/-- The marks after the character `c`, which follows the gap `g`; `entered` tells whether the
program is started at the gap. -/
def step (g : Gap) (c : Char) (entered : Bool) : Program Leaf → Program Leaf
  | one leaf => one ⟨entered && leaf.codes.contains c.toNat, leaf.codes⟩
  | seq p q => seq (p.step g c entered) (q.step g c ((entered && p.passes g) || p.finishes g))
  | alt p q => alt (p.step g c entered) (q.step g c entered)
  | plus p => plus (p.step g c (entered || p.finishes g))
  | p => p

/-- Whether some part of a text, from the current gap on, is read from start to end. -/
def search (before : Option Char) (p : Program Leaf) : List Char → Bool
  | [] => p.passes ⟨before, none⟩ || p.finishes ⟨before, none⟩
  | c :: rest =>
    let g : Gap := ⟨before, some c⟩
    p.passes g || p.finishes g || search (some c) (p.step g c true) rest

def isMatch (p : Program Leaf) (text : String) : Bool := p.search none text.toList

end Program

end Regex

end PayloadCheck
