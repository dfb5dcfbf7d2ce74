import PayloadCheck.Proofs.Conformance
import PayloadCheck.Proofs.Rounding

/-!
# Comparing numbers

`Number.AtMost` orders numbers by their values. `Number.order` keeps to it but for zeros, of which
it places negative zero below the others, and it is no order where two integers round to the double
that they are compared with.

* `bounds_by_value`: bounds contain the numbers that lie between their ends by value, and they are
  inverted if their ends are so by value, unless a zero meets negative zero;
* `order_transitive_unless_collapsed`: the comparison is an order but for two integers the wrong
  way round, with the double between them to which both are rounded.
-/

namespace PayloadCheck

namespace Number

/-- At most in value: integers as they are, and both as doubles if one is a double. -/
def AtMost : Number → Number → Prop
  | integer m, integer n => m ≤ n
  | x, y => x.toDouble.units ≤ y.toDouble.units

/-- A zero and negative zero, which have the same value. -/
def AboveByZeroSign (x y : Number) : Prop :=
  (x = integer 0 ∨ x = double ⟨false, 0⟩) ∧ y = double ⟨true, 0⟩

/-- Two integers the wrong way round, and between them the double to which both are rounded. -/
inductive Collapsed : Number → Number → Number → Prop
  | mk (m n : Int) (h : n < m) (he : Double.ofInt m = Double.ofInt n) :
      Collapsed (integer m) (double (.ofInt m)) (integer n)

end Number

namespace Bounds

/-- Between the ends by value, as far as they are there. -/
def Surround (b : Bounds) (x : Number) : Prop :=
  (∀ min ∈ b.min, min.AtMost x) ∧ ∀ max ∈ b.max, x.AtMost max

/-- An end and the number are zeros that only their signs put in the wrong order. -/
def SplitZero (b : Bounds) (x : Number) : Prop :=
  (∃ min ∈ b.min, min.AboveByZeroSign x) ∨ ∃ max ∈ b.max, x.AboveByZeroSign max

end Bounds

/-! ## Comparison and value -/

/-- Doubles compare by their values, but for the zeros. -/
theorem Double.order_eq_gt_iff (x y : Double) :
    x.order y = .gt ↔ ¬ x.units ≤ y.units ∨ x = ⟨false, 0⟩ ∧ y = ⟨true, 0⟩ := by
  rw [order, Int.compare_eq_gt, key_lt_iff, Int.not_le, and_comm]

namespace Number

theorem order_swap (x y : Number) : (x.order y).swap = y.order x := by
  cases x <;> cases y <;> exact Int.compare_swap _ _

theorem order_eq_lt_iff (x y : Number) : x.order y = .lt ↔ y.order x = .gt := by
  rw [← order_swap x y, Ordering.swap_eq_gt]

theorem toDouble_eq_zero_iff (x : Number) :
    x.toDouble = ⟨false, 0⟩ ↔ x = integer 0 ∨ x = double ⟨false, 0⟩ := by
  cases x <;> simp [toDouble, Double.ofInt_eq_zero_iff]

theorem aboveByZeroSign_iff (x : Number) (y : Double) :
    x.AboveByZeroSign (double y) ↔ x.toDouble = ⟨false, 0⟩ ∧ y = ⟨true, 0⟩ := by
  unfold AboveByZeroSign
  rw [toDouble_eq_zero_iff, double.injEq]

theorem not_aboveByZeroSign_integer (x : Number) (n : Int) : ¬ x.AboveByZeroSign (integer n) := by
  rintro ⟨-, h⟩
  cases h

theorem order_eq_gt_iff (x y : Number) :
    x.order y = .gt ↔ ¬ x.AtMost y ∨ x.AboveByZeroSign y := by
  cases y with
  | double y =>
    rw [aboveByZeroSign_iff]
    cases x <;> exact Double.order_eq_gt_iff _ _
  | integer n =>
    rw [or_iff_left (not_aboveByZeroSign_integer x n)]
    cases x with
    | integer m => rw [order, Int.compare_eq_gt, AtMost, Int.not_le]
    | double x =>
      -- No integer is rounded to negative zero.
      have hn : ¬ (x = ⟨false, 0⟩ ∧ Double.ofInt n = ⟨true, 0⟩) :=
        fun h => Double.ofInt_ne_negativeZero n h.2
      exact (Double.order_eq_gt_iff x (.ofInt n)).trans (or_iff_left hn)

theorem order_ne_gt_iff (x y : Number) :
    x.order y ≠ .gt ↔ x.AtMost y ∧ ¬ x.AboveByZeroSign y := by
  rw [Ne, order_eq_gt_iff, not_or, not_not]

theorem order_ne_lt_iff (x y : Number) :
    x.order y ≠ .lt ↔ y.AtMost x ∧ ¬ y.AboveByZeroSign x := by
  rw [Ne, order_eq_lt_iff]
  exact order_ne_gt_iff y x

end Number

/-! ## Bounds -/

namespace Bounds

theorem contains_iff_include (b : Bounds) (x : Number) : b.contains x = true ↔ b.Include x := by
  rw [Check.include_iff]
  simp [contains]

theorem include_iff_surround (b : Bounds) (x : Number) :
    b.Include x ↔ b.Surround x ∧ ¬ b.SplitZero x := by
  unfold Include Surround SplitZero
  simp only [Number.order_ne_lt_iff, Number.order_ne_gt_iff, forall₂_and, not_or, not_exists,
    not_and]
  exact and_and_and_comm

theorem isInverted_iff (b : Bounds) :
    b.isInverted = true ↔
      ∃ min ∈ b.min, ∃ max ∈ b.max, ¬ min.AtMost max ∨ min.AboveByZeroSign max := by
  unfold isInverted
  simp only [← Number.order_eq_gt_iff]
  cases b.min <;> cases b.max <;> simp

end Bounds

/-- Bounds go by value, and so do the verdicts on ranges and lengths, unless a zero meets negative
zero: then the signs decide. -/
theorem bounds_by_value (b : Bounds) :
    (∀ x, b.contains x = true ↔ b.Surround x ∧ ¬ b.SplitZero x) ∧
      (b.isInverted = true ↔
        ∃ min ∈ b.min, ∃ max ∈ b.max, ¬ min.AtMost max ∨ min.AboveByZeroSign max) ∧
      (∀ x path, (Check.rangeVerdict b (some (.number x)) path).isValid = true ↔
        b.contains x = true) ∧
      (∀ s path, (Check.lengthVerdict b (some (.string s)) path).isValid = true ↔
        b.contains (.integer s.length) = true) ∧
      ∀ items path, (Check.lengthVerdict b (some (.array items)) path).isValid = true ↔
        b.contains (.integer items.length) = true := by
  refine ⟨fun x => ?_, b.isInverted_iff, fun x path => ?_, fun s path => ?_,
    fun items path => ?_⟩
  · rw [b.contains_iff_include, b.include_iff_surround]
  · rw [b.contains_iff_include, Check.rangeVerdict_isValid]
  · rw [b.contains_iff_include, Check.lengthVerdict_isValid b rfl]
  · rw [b.contains_iff_include, Check.lengthVerdict_isValid b rfl]

/-- Negative zero is not below zero by value. It is refused all the same where zero is the lower
end, and with zero it makes inverted bounds. -/
theorem negative_zero_refused :
    let zero : Number := .integer 0
    let x : Number := .double ⟨true, 0⟩
    zero.AtMost x ∧ (Bounds.mk (some zero) none).Surround x ∧
      (Bounds.mk (some zero) none).contains x = false ∧
      (Bounds.mk (some zero) (some x)).isInverted = true := by
  have h : (Double.ofInt 0).units ≤ (Double.mk true 0).units := by decide +kernel
  refine ⟨h, ⟨?_, nofun⟩, by decide +kernel, by decide +kernel⟩
  rintro min ⟨⟩
  exact h

/-! ## Transitivity -/

namespace Number

/-- Rounding to doubles never turns a comparison round. -/
theorem key_toDouble_le {x y : Number} (h : x.order y ≠ .gt) :
    x.toDouble.key ≤ y.toDouble.key := by
  cases x with
  | integer m =>
    cases y with
    | integer n => exact Double.key_ofInt_le (Int.compare_ne_gt.mp h)
    | double y => exact Int.compare_ne_gt.mp h
  | double x => cases y <;> exact Int.compare_ne_gt.mp h

/-- Where a double is compared, nothing but the doubles counts. -/
theorem order_ne_gt_of_double {x z : Number} (h : (∃ a, x = double a) ∨ ∃ c, z = double c)
    (hk : x.toDouble.key ≤ z.toDouble.key) : x.order z ≠ .gt := by
  have hc : compare x.toDouble.key z.toDouble.key ≠ .gt := Int.compare_ne_gt.mpr hk
  rcases h with ⟨a, rfl⟩ | ⟨c, rfl⟩
  · cases z <;> exact hc
  · cases x <;> exact hc

/-- Both integers equal the double in between, and yet the first is the greater. -/
theorem order_of_collapsed {x y z : Number} (h : Collapsed x y z) :
    x.order y = .eq ∧ y.order z = .eq ∧ x.order z = .gt := by
  obtain ⟨m, n, h, he⟩ := h
  refine ⟨Int.compare_eq_eq.mpr rfl, ?_, Int.compare_eq_gt.mpr h⟩
  rw [he]
  exact Int.compare_eq_eq.mpr rfl

theorem order_integers_ne_gt {m n : Int} {y : Number} (hxy : (integer m).order y ≠ .gt)
    (hyz : y.order (integer n) ≠ .gt) (hc : ¬ Collapsed (integer m) y (integer n)) :
    (integer m).order (integer n) ≠ .gt := by
  rw [order, Int.compare_ne_gt]
  cases y with
  | integer k => exact Int.le_trans (Int.compare_ne_gt.mp hxy) (Int.compare_ne_gt.mp hyz)
  | double w =>
    by_contra hmn
    -- The keys of the roundings close in on that of the double.
    have hle : n ≤ m := by omega
    have hm : (Double.ofInt m).key ≤ w.key := key_toDouble_le hxy
    have hn : w.key ≤ (Double.ofInt n).key := key_toDouble_le hyz
    have hnm : (Double.ofInt n).key ≤ (Double.ofInt m).key := Double.key_ofInt_le hle
    obtain rfl : w = .ofInt m := Double.key_injective (by omega)
    exact hc ⟨m, n, by omega, Double.key_injective (by omega)⟩

theorem order_trans {x y z : Number} (hxy : x.order y ≠ .gt) (hyz : y.order z ≠ .gt)
    (hc : ¬ Collapsed x y z) : x.order z ≠ .gt := by
  have hk : x.toDouble.key ≤ z.toDouble.key :=
    Int.le_trans (key_toDouble_le hxy) (key_toDouble_le hyz)
  cases x with
  | double a => exact order_ne_gt_of_double (.inl ⟨a, rfl⟩) hk
  | integer m =>
    cases z with
    | double c => exact order_ne_gt_of_double (.inr ⟨c, rfl⟩) hk
    | integer n => exact order_integers_ne_gt hxy hyz hc

end Number

/-- The comparison of numbers is reflexive and total, and transitive but for two integers with the
double between them to which both are rounded. -/
theorem order_transitive_unless_collapsed (x y z : Number) :
    x.order x = .eq ∧ y.order x = (x.order y).swap ∧
      ((x.order y ≠ .gt ∧ y.order z ≠ .gt → x.order z ≠ .gt) ↔ ¬ Number.Collapsed x y z) := by
  refine ⟨?_, (x.order_swap y).symm, fun h hc => ?_, fun hc h => ?_⟩
  · cases x <;> exact Int.compare_eq_eq.mpr rfl
  · obtain ⟨hxy, hyz, hxz⟩ := Number.order_of_collapsed hc
    exact h ⟨by rw [hxy]; decide, by rw [hyz]; decide⟩ hxz
  · exact Number.order_trans h.1 h.2 hc

/-- The integers at and above `2 ^ 53`, and the double `2 ^ 53`. -/
theorem order_not_transitive :
    let x : Number := .integer 9007199254740993
    let y : Number := .double ⟨false, 1076 * Double.binade⟩
    let z : Number := .integer 9007199254740992
    ¬ (x.order y ≠ .gt ∧ y.order z ≠ .gt → x.order z ≠ .gt) := by
  decide +kernel

end PayloadCheck
