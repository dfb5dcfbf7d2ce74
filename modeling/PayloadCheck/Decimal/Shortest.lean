import PayloadCheck.Decimal.Double

/-!
# Shortest decimals

`Double.shortest` gives the fewest decimal digits that read back as the same magnitude, and among
those of that length the nearest to it. A magnitude owns an interval, half way to its neighbours
on both sides and with its ends if the pattern is even; on a decimal grid only the two neighbours
of the magnitude have to be tried.
-/

namespace PayloadCheck

/-- The decimal `digits * 10 ^ exponent`. -/
structure Decimal where
  digits : Nat
  exponent : Int
  deriving DecidableEq, Repr

namespace Double

/-- Whether the magnitude `n * step / scale`, in units, lies in the interval of `pattern`. -/
def readsBack (pattern scale step n : Nat) : Bool :=
  let low := (unitsOf (pattern - 1) + unitsOf pattern) * scale
  let high := (unitsOf pattern + unitsOf (pattern + 1)) * scale
  let point := 2 * n * step
  if pattern % 2 = 0 then low ≤ point && point ≤ high
  else low < point && point < high

/-- The nearest multiple of `10 ^ exponent` that reads back, if there is one. -/
def onGrid (pattern : Nat) (exponent : Int) : Option Decimal :=
  let scale := Nat.pow 10 (-exponent).toNat
  let step := one * Nat.pow 10 exponent.toNat
  let value := unitsOf pattern * scale
  let below := value / step
  let nearer := roundHalfEven value step
  let other := if nearer = below then below + 1 else below
  if nearer != 0 && readsBack pattern scale step nearer then some ⟨nearer, exponent⟩
  else if other != 0 && readsBack pattern scale step other then some ⟨other, exponent⟩
  else none

/-- A power of ten above the magnitude: a binary digit is less than `0.30103` decimal ones. -/
def decimalTop (pattern : Nat) : Int :=
  ((Nat.log2 (unitsOf pattern) + 1 : Int) - 1074) * 30103 / 100000 + 1

/-- Seventeen digits always suffice; the grids are tried from the coarsest. -/
def shortest (pattern : Nat) : Decimal :=
  ((List.range 20).findSome? fun i : Nat =>
    onGrid pattern (decimalTop pattern - (i : Int))).getD ⟨0, 0⟩

end Double

end PayloadCheck
