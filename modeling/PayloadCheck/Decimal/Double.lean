/-!
# Doubles

A double is a sign and the pattern of its magnitude: the exponent field above 52 fraction bits.
Patterns are ordered as the magnitudes they stand for, so the order of doubles is an order of
integers (`Double.key`). Every magnitude is a whole number of units of `2 ^ (-1074)`
(`Double.unitsOf`), and every rounding goes through `Double.nearest`, in exact arithmetic.

Patterns are not cut off at the largest finite one: those from `Double.ceiling` on stand for no
number, and a reader refuses them.
-/

namespace PayloadCheck

structure Double where
  negative : Bool
  pattern : Nat
  deriving DecidableEq, Repr

namespace Double

/-- One step of the exponent field. -/
def binade : Nat := Nat.pow 2 52

/-- How many units of `2 ^ (-1074)` make one. -/
def one : Nat := Nat.pow 2 1074

/-- The first pattern past the largest finite magnitude. -/
def ceiling : Nat := 2047 * binade

/-- The magnitude of a pattern, in units of `2 ^ (-1074)`. -/
def unitsOf (pattern : Nat) : Nat :=
  if pattern < binade then pattern
  else (binade + pattern % binade) * Nat.pow 2 (pattern / binade - 1)

/-- The value, in units of `2 ^ (-1074)`. -/
def units (x : Double) : Int :=
  if x.negative then -(unitsOf x.pattern : Int) else unitsOf x.pattern

/-! ## Rounding -/

/-- The whole number nearest to `num / den`; a half goes to the even neighbour. -/
def roundHalfEven (num den : Nat) : Nat :=
  let q := num / den
  let r := num % den
  if 2 * r < den then q
  else if den < 2 * r then q + 1
  else q + q % 2

/-- The exponent field that a magnitude of about `n` units needs, less one. -/
def scaleOf (n : Nat) : Nat := Nat.log2 n - 52

/-- The pattern nearest to `num / den` units. A mantissa that rounds up to the next power of two
carries into the exponent field, which is the right pattern. -/
def nearest (num den : Nat) : Nat :=
  let k := scaleOf (num / den)
  roundHalfEven num (den * Nat.pow 2 k) + k * binade

def ofNat (n : Nat) : Double := ⟨false, nearest (n * one) 1⟩

def ofInt (n : Int) : Double := ⟨n < 0, nearest (n.natAbs * one) 1⟩

/-! ## Arithmetic on magnitudes -/

def mulPattern (a b : Nat) : Nat := nearest (unitsOf a * unitsOf b) one

def divPattern (a b : Nat) : Nat := nearest (unitsOf a * one) (unitsOf b)

/-- The pattern of the power of ten `10 ^ n`. -/
def powTen (n : Nat) : Nat := nearest (Nat.pow 10 n * one) 1

/-! ## Order -/

/-- Doubles are ordered as these integers are: negative zero comes just before zero. -/
def key (x : Double) : Int :=
  if x.negative then -(x.pattern : Int) - 1 else x.pattern

def order (x y : Double) : Ordering := compare x.key y.key

/-- Below zero; negative zero is not. -/
def isNegative (x : Double) : Bool := x.negative && x.pattern != 0

end Double

end PayloadCheck
