import Mathlib.Algebra.Group.Nat.Defs
import Mathlib.Order.Monotone.Basic
import PayloadCheck.Decimal.Double

/-!
# Rounding keeps the order

* `unitsOf_strictMono`: patterns are ordered as the magnitudes they stand for;
* `key_lt_iff`: so doubles are ordered by value, and negative zero comes before zero;
* `nearest_mono`, `key_ofInt_le`: of two integers the greater is not rounded to the smaller double.
-/

namespace PayloadCheck

namespace Double

theorem binade_pos : 0 < binade := by decide

/-! ## Magnitudes -/

theorem unitsOf_of_lt {p : Nat} (h : p < binade) : unitsOf p = p := if_pos h

/-- The fraction `f` in the binade `e`, counted from the one of the least normal magnitude. -/
theorem unitsOf_binade_add (e : Nat) {f : Nat} (h : f < binade) :
    unitsOf ((e + 1) * binade + f) = (binade + f) * 2 ^ e := by
  have hn : ¬ (e + 1) * binade + f < binade := by
    rw [Nat.succ_mul]
    omega
  have hm : ((e + 1) * binade + f) % binade = f := by
    rw [Nat.mul_add_mod_self_right, Nat.mod_eq_of_lt h]
  have hd : ((e + 1) * binade + f) / binade = e + 1 := by
    rw [Nat.mul_comm, Nat.mul_add_div binade_pos, Nat.div_eq_of_lt h, Nat.add_zero]
  rw [unitsOf, if_neg hn, hm, hd]
  rfl

theorem exists_binade {p : Nat} (h : binade ≤ p) :
    ∃ e f, f < binade ∧ p = (e + 1) * binade + f := by
  have hq : 0 < p / binade := Nat.div_pos h binade_pos
  refine ⟨p / binade - 1, p % binade, Nat.mod_lt p binade_pos, ?_⟩
  rw [Nat.sub_add_cancel hq, Nat.div_add_mod']

theorem unitsOf_lt_succ (p : Nat) : unitsOf p < unitsOf (p + 1) := by
  rcases Nat.lt_or_ge p binade with hp | hp
  · rw [unitsOf_of_lt hp]
    by_cases hs : p + 1 < binade
    · rw [unitsOf_of_lt hs]
      exact Nat.lt_succ_self p
    · have he : p + 1 = (0 + 1) * binade + 0 := by omega
      rw [he, unitsOf_binade_add 0 binade_pos]
      omega
  · obtain ⟨e, f, hf, rfl⟩ := exists_binade hp
    rw [unitsOf_binade_add e hf]
    by_cases hs : f + 1 < binade
    · rw [Nat.add_assoc, unitsOf_binade_add e hs]
      exact Nat.mul_lt_mul_of_pos_right (by omega) (Nat.two_pow_pos e)
    · -- The fraction is full, and the next pattern opens the next binade.
      have he : (e + 1) * binade + f + 1 = (e + 1 + 1) * binade + 0 := by
        rw [Nat.succ_mul (e + 1)]
        omega
      rw [he, unitsOf_binade_add (e + 1) binade_pos]
      calc
        (binade + f) * 2 ^ e < (2 * binade) * 2 ^ e :=
          Nat.mul_lt_mul_of_pos_right (by omega) (Nat.two_pow_pos e)
        _ = (binade + 0) * 2 ^ (e + 1) := by
          rw [Nat.mul_comm 2 binade, Nat.mul_assoc, ← Nat.pow_succ', Nat.add_zero]

theorem unitsOf_strictMono : StrictMono unitsOf := strictMono_nat_of_lt_succ unitsOf_lt_succ

theorem unitsOf_pos {p : Nat} (h : p ≠ 0) : 0 < unitsOf p :=
  Nat.lt_of_le_of_lt (Nat.zero_le _) (unitsOf_strictMono (Nat.pos_of_ne_zero h))

theorem unitsOf_eq_zero_iff (p : Nat) : unitsOf p = 0 ↔ p = 0 := by
  constructor
  · intro h
    by_contra hp
    exact Nat.ne_of_gt (unitsOf_pos hp) h
  · rintro rfl
    exact unitsOf_of_lt binade_pos

/-! ## The order of doubles -/

/-- Doubles are ordered by value, but that negative zero comes before zero. -/
theorem key_lt_iff (x y : Double) :
    x.key < y.key ↔ x.units < y.units ∨ x = ⟨true, 0⟩ ∧ y = ⟨false, 0⟩ := by
  obtain ⟨sx, p⟩ := x
  obtain ⟨sy, q⟩ := y
  have hpq : unitsOf p < unitsOf q ↔ p < q := unitsOf_strictMono.lt_iff_lt
  have hqp : unitsOf q < unitsOf p ↔ q < p := unitsOf_strictMono.lt_iff_lt
  have hp := unitsOf_eq_zero_iff p
  have hq := unitsOf_eq_zero_iff q
  -- Among magnitudes of one sign the patterns decide; across the signs only zeros can tie in value.
  cases sx <;> cases sy <;> simp [key, units] <;> omega

/-! ## Rounding -/

theorem le_roundHalfEven (num den : Nat) : num / den ≤ roundHalfEven num den := by
  unfold roundHalfEven
  simp only
  split_ifs <;> omega

theorem roundHalfEven_le (num den : Nat) : roundHalfEven num den ≤ num / den + 1 := by
  unfold roundHalfEven
  simp only
  split_ifs <;> omega

theorem roundHalfEven_mono (den : Nat) {num num' : Nat} (h : num ≤ num') :
    roundHalfEven num den ≤ roundHalfEven num' den := by
  have hq : num / den ≤ num' / den := Nat.div_le_div_right h
  rcases Nat.lt_or_eq_of_le hq with hq | hq
  · calc
      roundHalfEven num den ≤ num / den + 1 := roundHalfEven_le num den
      _ ≤ num' / den := hq
      _ ≤ roundHalfEven num' den := le_roundHalfEven num' den
  · -- Both lie between the same two whole numbers, and their remainders are in order.
    have hr : num % den ≤ num' % den := by
      have hn := Nat.div_add_mod num den
      have hn' := Nat.div_add_mod num' den
      rw [hq] at hn
      omega
    unfold roundHalfEven
    simp only [hq]
    split_ifs <;> omega

theorem scaleOf_mono {n n' : Nat} (h : n ≤ n') : scaleOf n ≤ scaleOf n' := by
  unfold scaleOf
  by_cases hn : n = 0
  · simp [hn]
  · have hl : n.log2 ≤ n'.log2 := by
      rw [Nat.le_log2 (by omega)]
      exact Nat.le_trans (Nat.log2_self_le hn) h
    omega

/-- The mantissa that is rounded has 53 bits at most. -/
theorem div_scale_lt (n : Nat) : n / 2 ^ scaleOf n < 2 * binade := by
  have hn : n < 2 ^ (n.log2 + 1) := Nat.lt_log2_self
  have hs : n.log2 + 1 ≤ 53 + scaleOf n := by
    unfold scaleOf
    omega
  rw [Nat.div_lt_iff_lt_mul (Nat.two_pow_pos _)]
  calc
    n < 2 ^ (n.log2 + 1) := hn
    _ ≤ 2 ^ (53 + scaleOf n) := Nat.pow_le_pow_right (by decide) hs
    _ = 2 * binade * 2 ^ scaleOf n := by rw [Nat.pow_add]; rfl

/-- Past the first binade the mantissa that is rounded has 53 bits. -/
theorem le_div_scale {n : Nat} (h : 0 < scaleOf n) : binade ≤ n / 2 ^ scaleOf n := by
  have hl : n.log2 = 52 + scaleOf n := by
    unfold scaleOf at h ⊢
    omega
  have hn : n ≠ 0 := by
    rintro rfl
    exact absurd h (by decide)
  rw [Nat.le_div_iff_mul_le (Nat.two_pow_pos _)]
  calc
    binade * 2 ^ scaleOf n = 2 ^ (52 + scaleOf n) := by rw [Nat.pow_add]; rfl
    _ = 2 ^ n.log2 := by rw [hl]
    _ ≤ n := Nat.log2_self_le hn

theorem nearest_le (num den : Nat) : nearest num den ≤ (scaleOf (num / den) + 2) * binade := by
  have hr := roundHalfEven_le num (den * 2 ^ scaleOf (num / den))
  have hm := div_scale_lt (num / den)
  rw [Nat.div_div_eq_div_mul] at hm
  calc
    nearest num den = roundHalfEven num (den * 2 ^ scaleOf (num / den)) +
        scaleOf (num / den) * binade := rfl
    _ ≤ 2 * binade + scaleOf (num / den) * binade := by omega
    _ = (scaleOf (num / den) + 2) * binade := by rw [Nat.add_mul, Nat.add_comm]

theorem le_nearest {num den : Nat} (h : 0 < scaleOf (num / den)) :
    (scaleOf (num / den) + 1) * binade ≤ nearest num den := by
  have hr := le_roundHalfEven num (den * 2 ^ scaleOf (num / den))
  have hm := le_div_scale h
  rw [Nat.div_div_eq_div_mul] at hm
  calc
    (scaleOf (num / den) + 1) * binade = binade + scaleOf (num / den) * binade := by
      rw [Nat.succ_mul, Nat.add_comm]
    _ ≤ roundHalfEven num (den * 2 ^ scaleOf (num / den)) + scaleOf (num / den) * binade := by
      omega
    _ = nearest num den := rfl

theorem nearest_mono (den : Nat) {num num' : Nat} (h : num ≤ num') :
    nearest num den ≤ nearest num' den := by
  have hs : scaleOf (num / den) ≤ scaleOf (num' / den) := scaleOf_mono (Nat.div_le_div_right h)
  rcases Nat.lt_or_eq_of_le hs with hs | hs
  · calc
      nearest num den ≤ (scaleOf (num / den) + 2) * binade := nearest_le num den
      _ ≤ (scaleOf (num' / den) + 1) * binade := Nat.mul_le_mul_right _ (by omega)
      _ ≤ nearest num' den := le_nearest (by omega)
  · -- In one binade both are rounded on the same grid.
    unfold nearest
    simp only [hs]
    exact Nat.add_le_add_right (roundHalfEven_mono _ h) _

/-! ## Integers as doubles -/

theorem key_ofInt_le {m n : Int} (h : m ≤ n) : (ofInt m).key ≤ (ofInt n).key := by
  have hmn : m.natAbs ≤ n.natAbs → nearest (m.natAbs * one) 1 ≤ nearest (n.natAbs * one) 1 :=
    fun h => nearest_mono 1 (Nat.mul_le_mul_right one h)
  have hnm : n.natAbs ≤ m.natAbs → nearest (n.natAbs * one) 1 ≤ nearest (m.natAbs * one) 1 :=
    fun h => nearest_mono 1 (Nat.mul_le_mul_right one h)
  by_cases hm : m < 0
  · by_cases hn : n < 0
    · have := hnm (by omega)
      simp only [key, ofInt, hm, hn, decide_true, ↓reduceIte]
      omega
    · simp only [key, ofInt, hm, hn, decide_true, decide_false, Bool.false_eq_true, ↓reduceIte]
      omega
  · have hn : ¬ n < 0 := by omega
    have := hmn (by omega)
    simp only [key, ofInt, hm, hn, decide_false, Bool.false_eq_true, ↓reduceIte]
    omega

/-- No integer but zero is rounded to a zero. -/
theorem pattern_ofInt_eq_zero_iff (n : Int) : (ofInt n).pattern = 0 ↔ n = 0 := by
  constructor
  · intro h
    by_contra hn
    have h1 : nearest (1 * one) 1 ≤ (ofInt n).pattern :=
      nearest_mono 1 (Nat.mul_le_mul_right one (by omega))
    have h0 : 0 < nearest (1 * one) 1 := by decide +kernel
    omega
  · rintro rfl
    decide +kernel

theorem ofInt_eq_zero_iff (n : Int) : ofInt n = ⟨false, 0⟩ ↔ n = 0 := by
  constructor
  · intro h
    exact (pattern_ofInt_eq_zero_iff n).mp (congrArg pattern h)
  · rintro rfl
    decide +kernel

theorem ofInt_ne_negativeZero (n : Int) : ofInt n ≠ ⟨true, 0⟩ := by
  intro h
  obtain rfl : n = 0 := (pattern_ofInt_eq_zero_iff n).mp (congrArg pattern h)
  cases congrArg negative h

theorem key_injective : Function.Injective key := by
  rintro ⟨sx, p⟩ ⟨sy, q⟩ h
  cases sx <;> cases sy <;> simp [key] at h ⊢ <;> omega

end Double

end PayloadCheck
