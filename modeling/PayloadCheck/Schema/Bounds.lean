import PayloadCheck.Json.Number

/-!
# Bounds

Bounds include their ends, and an end may be open. They keep the numbers of the schema as written
and compare by `Number.order`.
-/

namespace PayloadCheck

structure Bounds where
  min : Option Number
  max : Option Number
  deriving DecidableEq, Repr

namespace Bounds

def isBelow (b : Bounds) (x : Number) : Bool := b.min.any fun min => x.order min = .lt

def isAbove (b : Bounds) (x : Number) : Bool := b.max.any fun max => x.order max = .gt

def contains (b : Bounds) (x : Number) : Bool := !b.isBelow x && !b.isAbove x

/-- Both ends are there, in the wrong order. -/
def isInverted (b : Bounds) : Bool :=
  match b.min, b.max with
  | some min, some max => min.order max = .gt
  | _, _ => false

def hasNegative (b : Bounds) : Bool :=
  b.min.any Number.isNegative || b.max.any Number.isNegative

def text (b : Bounds) : String :=
  "[" ++ (b.min.map Number.text).getD "-infinity" ++ ", " ++
    (b.max.map Number.text).getD "+infinity" ++ "]"

end Bounds

end PayloadCheck
