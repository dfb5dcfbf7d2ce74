import PayloadCheck.Report.Verdict

/-!
# Outcomes

An outcome collects verdicts in the order in which they are pushed, and keeps the failing and the
valid ones apart as well.
-/

namespace PayloadCheck

structure Outcome where
  verdicts : List Verdict
  errors : List Verdict
  valids : List Verdict
  deriving DecidableEq, Repr

namespace Outcome

def empty : Outcome := ⟨[], [], []⟩

def push (o : Outcome) (v : Verdict) : Outcome :=
  if v.isValid then { o with verdicts := o.verdicts ++ [v], valids := o.valids ++ [v] }
  else { o with verdicts := o.verdicts ++ [v], errors := o.errors ++ [v] }

def size (o : Outcome) : Nat := o.verdicts.length

def isEmpty (o : Outcome) : Bool := o.verdicts.isEmpty

def isValid (o : Outcome) : Bool := o.errors.isEmpty

def firstError? (o : Outcome) : Option Verdict := o.errors.head?

/-- The verdicts whose path starts with a key. -/
def forField (o : Outcome) (name : String) : List Verdict :=
  o.verdicts.filter fun v => v.field? == some name

end Outcome

end PayloadCheck
