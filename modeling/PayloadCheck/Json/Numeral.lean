import PayloadCheck.Json.Taken

/-!
# Numerals

A numeral without fraction and exponent that fits 64 bits, signed or not, is an integer. Any other
is a double, which is the significand, as far as it fits 64 bits, scaled by a power of ten: digits
beyond that are dropped, and those before the point still count in the exponent. The scaling is
one multiplication or division of doubles, so the result need not be the nearest double.
-/

namespace PayloadCheck

/-- A numeral as written. The exponent is its sign, true if negative, and the text from its first
digit on. -/
structure Numeral where
  negative : Bool
  whole : List Char
  fraction : Option (List Char)
  exponent : Option (Bool × List Char)
  deriving Repr

namespace Numeral

def isDigit (c : Char) : Bool := '0' ≤ c && c ≤ '9'

def startsWithDigit (s : List Char) : Bool := s.head?.any isDigit

def digitsOf (s : List Char) : List Char := s.takeWhile isDigit

def afterDigits (s : List Char) : List Char := s.dropWhile isDigit

theorem length_afterDigits_le (s : List Char) : (afterDigits s).length ≤ s.length := by
  induction s with
  | nil => simp [afterDigits]
  | cons c rest ih =>
    rw [afterDigits, List.dropWhile_cons]
    split
    · exact Nat.le_succ_of_le ih
    · exact Nat.le_refl _

/-! ## Scanning -/

/-- The digits before the point: a leading zero stands alone. -/
def scanWhole : Reader (List Char)
  | [] => .error (.here .endInValue [])
  | c :: rest =>
    if c = '0' then
      if startsWithDigit rest then .error (.next .badNumber rest)
      else .ok (.first ['0'] c rest)
    else if isDigit c then
      .ok ⟨c :: digitsOf rest, afterDigits rest, Nat.lt_succ_of_le (length_afterDigits_le rest)⟩
    else .error ⟨.badNumber, .fixed (c :: rest) 1⟩

/-- The digits after the point, of which there has to be one. -/
def scanFraction (s : List Char) :
    Except Fault { r : Option (List Char) × List Char // r.2.length ≤ s.length } :=
  match s with
  | '.' :: rest =>
    if startsWithDigit rest then
      .ok ⟨(some (digitsOf rest), afterDigits rest),
        Nat.le_succ_of_le (length_afterDigits_le rest)⟩
    else if rest.isEmpty then .error (.here .endInValue [])
    else .error (.next .badNumber rest)
  | s => .ok ⟨(none, s), Nat.le_refl _⟩

/-- The sign of an exponent, true if it is negative. -/
def exponentSign (s : List Char) : { r : Bool × List Char // r.2.length ≤ s.length } :=
  match s with
  | '+' :: rest => ⟨(false, rest), Nat.le_succ _⟩
  | '-' :: rest => ⟨(true, rest), Nat.le_succ _⟩
  | s => ⟨(false, s), Nat.le_refl _⟩

def scanExponent (s : List Char) :
    Except Fault { r : Option (Bool × List Char) × List Char // r.2.length ≤ s.length } :=
  match s with
  | c :: rest =>
    if c = 'e' || c = 'E' then
      let ⟨(negative, digits), h⟩ := exponentSign rest
      if startsWithDigit digits then
        .ok ⟨(some (negative, digits), afterDigits digits),
          Nat.le_succ_of_le (Nat.le_trans (length_afterDigits_le digits) h)⟩
      else if digits.isEmpty then .error (.here .endInValue [])
      else .error ⟨.badNumber, .fixed digits 1⟩
    else .ok ⟨(none, c :: rest), Nat.le_refl _⟩
  | [] => .ok ⟨(none, []), Nat.le_refl _⟩

def scanUnsigned (negative : Bool) : Reader Numeral := fun s => do
  let whole ← scanWhole s
  let ⟨(fraction, r), hr⟩ ← scanFraction whole.rest
  let ⟨(exponent, rest), h⟩ ← scanExponent r
  return ⟨⟨negative, whole.value, fraction, exponent⟩, rest,
    Nat.lt_of_le_of_lt (Nat.le_trans h hr) whole.shorter⟩

def scan : Reader Numeral
  | '-' :: rest => do
    let t ← scanUnsigned true rest
    return t.afterFirst '-'
  | s => scanUnsigned false s

/-! ## The value -/

def largestUnsigned : Nat := Nat.pow 2 64 - 1

def digitValue (c : Char) : Nat := c.toNat - '0'.toNat

/-- Appends digits before the point. From the first that does not fit, all that follow only raise
the exponent. -/
def addWhole (significand exponent : Nat) : List Char → Nat × Nat
  | [] => (significand, exponent)
  | c :: rest =>
    if exponent = 0 && 10 * significand + digitValue c ≤ largestUnsigned then
      addWhole (10 * significand + digitValue c) 0 rest
    else addWhole significand (exponent + 1) rest

/-- Appends digits after the point up to the first that does not fit. -/
def addFraction (significand : Nat) (exponent : Int) : List Char → Nat × Int
  | [] => (significand, exponent)
  | c :: rest =>
    if 10 * significand + digitValue c ≤ largestUnsigned then
      addFraction (10 * significand + digitValue c) (exponent - 1) rest
    else (significand, exponent)

def largestExponent : Nat := Nat.pow 2 31 - 1

/-- The value of the digits of an exponent, or what is left when it no longer fits 32 bits. -/
def exponentValue (value : Nat) : List Char → Except (List Char) Nat
  | [] => .ok value
  | c :: rest =>
    if !isDigit c then .ok value
    else if 10 * value + digitValue c ≤ largestExponent then
      exponentValue (10 * value + digitValue c) rest
    else .error rest

/-- The pattern of a magnitude scaled by `10 ^ exponent`, unless it becomes infinite. -/
def scaled (pattern : Nat) (exponent : Int) : Option Nat :=
  if 0 ≤ exponent then
    if exponent ≤ 308 then
      let p := Double.mulPattern pattern (Double.powTen exponent.toNat)
      if p < Double.ceiling then some p else none
    else if pattern = 0 then some 0
    else none
  else if -308 ≤ exponent then
    some (Double.divPattern pattern (Double.powTen (-exponent).toNat))
  else if pattern = 0 then some 0
  else scaled (Double.divPattern pattern (Double.powTen 308)) (exponent + 308)
termination_by (-exponent).toNat

def double (negative : Bool) (significand : Nat) (exponent : Int) (rest : List Char) :
    Except Fault Number :=
  match scaled (Double.ofNat significand).pattern exponent with
  | some pattern => .ok (.double ⟨negative, pattern⟩)
  | none => .error (.here .numberTooLarge rest)

/-- An integer if the sign allows it; negative zero is a double. -/
def integer (negative : Bool) (n : Nat) : Number :=
  if !negative then .integer n
  else if n = 0 || Nat.pow 2 63 < n then .double ⟨true, (Double.ofNat n).pattern⟩
  else .integer (-n)

/-- The number that a numeral with the text `rest` after it stands for. -/
def value (n : Numeral) (rest : List Char) : Except Fault Number :=
  let (significand, dropped) := addWhole 0 0 n.whole
  let (significand', exponent) := addFraction significand dropped (n.fraction.getD [])
  match n.exponent with
  | none =>
    if n.fraction.isNone && dropped = 0 then .ok (integer n.negative significand)
    else double n.negative significand' exponent rest
  | some (negative, digits) =>
    match exponentValue 0 digits with
    | .ok e =>
      double n.negative significand' (if negative then exponent - e else exponent + e) rest
    | .error unread =>
      if significand' ≠ 0 && !negative then .error (.here .numberTooLarge unread)
      else .ok (.double ⟨n.negative, 0⟩)

def read : Reader Number := fun s => do
  let t ← scan s
  let n ← t.value.value t.rest
  return t.map fun _ => n

end Numeral

end PayloadCheck
