import PayloadCheck.Decimal.Shortest

/-!
# JSON numbers

A number keeps how it was written: as an integer or as a double. Two integers compare exactly;
as soon as a double is on either side, both sides are taken as doubles. The printed text of a
double is its shortest decimal, laid out by `DecimalLayout`.
-/

namespace PayloadCheck

inductive Number where
  | integer (n : Int)
  | double (x : Double)
  deriving DecidableEq, Repr

/-- Decimal exponents from `plainFrom` to `plainTo` are written positionally, others with an
exponent mark. -/
structure DecimalLayout where
  plainFrom : Int
  plainTo : Int

namespace Decimal

/-- The exponent of the leading digit. -/
def magnitude (d : Decimal) : Int :=
  d.exponent + ((Nat.toDigits 10 d.digits).length : Int) - 1

/-- Positional text with at least one digit on each side of the point. -/
def plainChars (d : Decimal) : List Char :=
  let ds := Nat.toDigits 10 d.digits
  let places := (-d.exponent).toNat
  if places = 0 then ds ++ List.replicate d.exponent.toNat '0' ++ ['.', '0']
  else if places < ds.length then
    ds.take (ds.length - places) ++ '.' :: ds.drop (ds.length - places)
  else '0' :: '.' :: (List.replicate (places - ds.length) '0' ++ ds)

/-- One digit before the point, an `e`, and the exponent with its sign. -/
def markedChars (d : Decimal) : List Char :=
  let exponent := d.magnitude
  let mark := 'e' :: (if exponent < 0 then '-' else '+') :: Nat.toDigits 10 exponent.natAbs
  match Nat.toDigits 10 d.digits with
  | first :: second :: rest => first :: '.' :: second :: rest ++ mark
  | ds => ds ++ mark

def chars (layout : DecimalLayout) (d : Decimal) : List Char :=
  if layout.plainFrom ≤ d.magnitude && d.magnitude ≤ layout.plainTo then d.plainChars
  else d.markedChars

end Decimal

namespace Number

/-- Numbers in documents and reports are positional from `0.00001` up to sixteen digits before
the point. -/
def layout : DecimalLayout := ⟨-5, 15⟩

def toDouble : Number → Double
  | integer n => Double.ofInt n
  | double x => x

def order : Number → Number → Ordering
  | integer m, integer n => compare m n
  | x, y => x.toDouble.order y.toDouble

def isNegative : Number → Bool
  | integer n => n < 0
  | double x => x.isNegative

def integerChars (n : Int) : List Char :=
  if n < 0 then '-' :: Nat.toDigits 10 n.natAbs else Nat.toDigits 10 n.natAbs

def doubleChars (x : Double) : List Char :=
  let body := if x.pattern = 0 then ['0', '.', '0'] else (Double.shortest x.pattern).chars layout
  if x.negative then '-' :: body else body

def chars : Number → List Char
  | integer n => integerChars n
  | double x => doubleChars x

def text (n : Number) : String := String.ofList n.chars

end Number

end PayloadCheck
