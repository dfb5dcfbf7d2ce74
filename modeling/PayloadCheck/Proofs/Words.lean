import Mathlib.Algebra.Group.Int.Defs
import PayloadCheck.Json.Number
import PayloadCheck.Proofs.Rounding

/-!
# Numbers in words

The integers of `Number` have any size. Here they are kept in 64 bits, natural numbers without a
sign and negative ones in two's complement, and they are compared in 128 bits, to which some are
brought by their sign bit and others by zeros.

* `Number64.wide?_ofNumber`: no integer from `-2 ^ 63` to `2 ^ 64 - 1` changes on the way;
* `Number64.order_ofNumber`, `Number64.isNegative_ofNumber`: so the words compare as the numbers do.
-/

namespace PayloadCheck

/-- No negative integer is rounded to negative zero, which is not below zero. -/
theorem Double.isNegative_ofInt (n : Int) : (ofInt n).isNegative = decide (n < 0) := by
  have hsign : (ofInt n).negative = decide (n < 0) := rfl
  unfold isNegative
  rw [hsign]
  by_cases hn : n < 0
  · have hp : (ofInt n).pattern ≠ 0 := by
      rw [Ne, pattern_ofInt_eq_zero_iff]
      omega
    rw [bne_iff_ne.mpr hp, Bool.and_true]
  · rw [decide_eq_false hn, Bool.false_and]

/-- A number in 64 bits: a natural number, a negative integer, or a double. -/
inductive Number64 where
  | natural (w : BitVec 64)
  | negative (w : BitVec 64)
  | double (x : Double)

namespace Number64

/-- There is room for the number, with a sign or without. -/
def Holds : Number → Prop
  | .integer n => -2 ^ 63 ≤ n ∧ n < 2 ^ 64
  | .double _ => True

def ofNumber : Number → Number64
  | .integer n => if 0 ≤ n then natural (.ofInt 64 n) else negative (.ofInt 64 n)
  | .double x => double x

def toNumber : Number64 → Number
  | natural w => .integer w.toNat
  | negative w => .integer w.toInt
  | double x => .double x

/-- The bits of an integer that has room beside a sign bit. -/
def signed? : Number64 → Option (BitVec 64)
  | natural w => if w.toNat < 2 ^ 63 then some w else none
  | negative w => some w
  | double _ => none

def unsigned? : Number64 → Option (BitVec 64)
  | natural w => some w
  | _ => none

/-- An integer in 128 bits. -/
def wide? (x : Number64) : Option (BitVec 128) :=
  (x.signed?.map (BitVec.signExtend 128)).or (x.unsigned?.map (BitVec.setWidth 128))

def toDouble : Number64 → Double
  | natural w => .ofInt w.toNat
  | negative w => .ofInt w.toInt
  | double x => x

def compareSigned (a b : BitVec 128) : Ordering :=
  if a.slt b then .lt else if b.slt a then .gt else .eq

/-- Two integers compare in 128 bits; else both sides are taken as doubles. -/
def order (x y : Number64) : Ordering :=
  match x.wide?, y.wide? with
  | some a, some b => compareSigned a b
  | _, _ => x.toDouble.order y.toDouble

/-- A sign bit, or a double below zero. -/
def isNegative (x : Number64) : Bool :=
  (x.signed?.any fun w => w.slt 0) || x.toDouble.isNegative

/-! ## Integers -/

variable {n : Int}

theorem toNat_ofInt (h : Holds (.integer n)) (hn : 0 ≤ n) :
    ((BitVec.ofInt 64 n).toNat : Int) = n := by
  have hmod : n % 2 ^ 64 = n := Int.emod_eq_of_lt hn h.2
  rw [BitVec.toNat_ofInt]
  omega

theorem toInt_ofInt (h : Holds (.integer n)) (hn : n < 2 ^ 63) : (BitVec.ofInt 64 n).toInt = n := by
  have hlow : -2 ^ 63 ≤ n := h.1
  rw [BitVec.toInt_ofInt]
  apply Int.bmod_eq_of_le <;> omega

theorem toNumber_ofNumber {x : Number} (h : Holds x) : (ofNumber x).toNumber = x := by
  cases x with
  | double x => rfl
  | integer n =>
    simp only [ofNumber]
    split
    · rename_i hn
      exact congrArg Number.integer (toNat_ofInt h hn)
    · exact congrArg Number.integer (toInt_ofInt h (by omega))

theorem toDouble_ofNumber {x : Number} (h : Holds x) : (ofNumber x).toDouble = x.toDouble := by
  have hback := toNumber_ofNumber h
  cases hx : ofNumber x <;> rw [hx] at hback <;> subst hback <;> rfl

theorem signed?_ofNumber (h : Holds (.integer n)) :
    (ofNumber (.integer n)).signed? = if n < 2 ^ 63 then some (.ofInt 64 n) else none := by
  simp only [ofNumber]
  by_cases hn : 0 ≤ n
  · have hnat := toNat_ofInt h hn
    rw [if_pos hn]
    simp only [signed?]
    congr 1
    exact propext (by omega)
  · have hsmall : n < 2 ^ 63 := by omega
    rw [if_neg hn, if_pos hsmall]
    rfl

/-- An integer too large for a sign bit is a natural number, and zeros are put before it. -/
theorem wide?_ofNumber (h : Holds (.integer n)) :
    ∃ w, (ofNumber (.integer n)).wide? = some w ∧ w.toInt = n := by
  unfold wide?
  rw [signed?_ofNumber h]
  by_cases hn : n < 2 ^ 63
  · rw [if_pos hn]
    refine ⟨_, rfl, ?_⟩
    rw [BitVec.toInt_signExtend_of_le (by decide), toInt_ofInt h hn]
  · have hpos : 0 ≤ n := by omega
    have hnat := toNat_ofInt h hpos
    rw [if_neg hn]
    simp only [ofNumber, if_pos hpos]
    refine ⟨_, rfl, ?_⟩
    rw [BitVec.toInt_setWidth, hnat]
    apply Int.bmod_eq_of_le <;> have := h.2 <;> omega

/-! ## Comparison -/

theorem compareSigned_eq (a b : BitVec 128) : compareSigned a b = compare a.toInt b.toInt := by
  unfold compareSigned
  rw [BitVec.slt_eq_decide, BitVec.slt_eq_decide]
  rcases Int.lt_trichotomy a.toInt b.toInt with h | h | h
  · rw [Int.compare_eq_lt.mpr h, if_pos (decide_eq_true h)]
  · rw [h, Int.compare_eq_eq.mpr rfl]
    simp
  · have hnot : ¬ a.toInt < b.toInt := by omega
    rw [Int.compare_eq_gt.mpr h]
    simp [hnot, h]

theorem order_ofNumber {x y : Number} (hx : Holds x) (hy : Holds y) :
    (ofNumber x).order (ofNumber y) = x.order y := by
  have hdoubles : (ofNumber x).toDouble.order (ofNumber y).toDouble =
      x.toDouble.order y.toDouble := by
    rw [toDouble_ofNumber hx, toDouble_ofNumber hy]
  unfold order
  cases x with
  | double x => exact hdoubles
  | integer m =>
    obtain ⟨v, hv, rfl⟩ := wide?_ofNumber hx
    rw [hv]
    cases y with
    | double y => exact hdoubles
    | integer n =>
      obtain ⟨w, hw, rfl⟩ := wide?_ofNumber hy
      rw [hw]
      exact compareSigned_eq v w

/-- The test on doubles, which is made for integers as well, adds nothing to that on the sign. -/
theorem isNegative_ofNumber {x : Number} (h : Holds x) :
    (ofNumber x).isNegative = x.isNegative := by
  unfold isNegative
  rw [toDouble_ofNumber h]
  cases x with
  | double x => rfl
  | integer n =>
    rw [signed?_ofNumber h, Number.toDouble, Double.isNegative_ofInt]
    by_cases hn : n < 2 ^ 63
    · rw [if_pos hn, Option.any_some, BitVec.slt_eq_decide, toInt_ofInt h hn]
      simp [Number.isNegative]
    · rw [if_neg hn]
      rfl

end Number64

end PayloadCheck
