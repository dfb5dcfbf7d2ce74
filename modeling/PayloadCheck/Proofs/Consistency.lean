import PayloadCheck.Proofs.Acceptance
import PayloadCheck.Proofs.Comparison

/-!
# Bounds do not contradict themselves

Bounds that are not inverted contain their own ends, and no number is both below and above them, so
that it makes no difference which end is tested first. The comparison is not transitive, but it is
as soon as its first step is a strict one, and that is all that is needed.

* `Number.order_ne_gt_of_lt`: a number below another is not above what the other is not above;
* `Bounds.consistent_iff`: bounds are consistent exactly if they are not inverted;
* `accepted_bounds_consistent`: so the bounds of accepted schemas are.
-/

namespace PayloadCheck

namespace Check

/-- `rangeVerdict`, but that the upper end is tested first. -/
def rangeVerdictFromAbove (bounds : Bounds) (value : Option Json) (path : Path) : Verdict :=
  let verdict (code : VerdictCode) (message : String) : Verdict :=
    ⟨code, "in range " ++ bounds.text, Json.shownOrAbsent value, path, message⟩
  match value with
  | some (.number x) =>
    if bounds.isAbove x then verdict .invalidRange "Value is above the maximum"
    else if bounds.isBelow x then verdict .invalidRange "Value is below the minimum"
    else verdict .valid "Value is within the range"
  | _ => verdict .invalidRange "Value is not numeric"

/-- `lengthVerdict`, but that the upper end is tested first. -/
def lengthVerdictFromAbove (bounds : Bounds) (value : Option Json) (path : Path) : Verdict :=
  let verdict (code : VerdictCode) (received message : String) : Verdict :=
    ⟨code, "in length " ++ bounds.text, received, path, message⟩
  match value.bind Json.size? with
  | none => verdict .invalidLength (Json.shownOrAbsent value) "Value has no length"
  | some size =>
    let n := Number.integer size
    if bounds.isAbove n then
      verdict .invalidLength (toString size) "Value is above the maximum length"
    else if bounds.isBelow n then
      verdict .invalidLength (toString size) "Value is below the minimum length"
    else verdict .valid (toString size) "Value is within the length"

end Check

/-- The bounds say nothing of a number that contradicts what else they say. -/
structure Bounds.Consistent (b : Bounds) : Prop where
  containsMin : ∀ min ∈ b.min, b.contains min = true
  containsMax : ∀ max ∈ b.max, b.contains max = true
  disjoint : ∀ x, ¬ (b.isBelow x = true ∧ b.isAbove x = true)
  range : Check.rangeVerdictFromAbove b = Check.rangeVerdict b
  length : Check.lengthVerdictFromAbove b = Check.lengthVerdict b

/-! ## Comparison -/

namespace Number

theorem order_self (x : Number) : x.order x = .eq := by
  cases x <;> exact Int.compare_eq_eq.mpr rfl

/-- Transitivity fails only where the first two are equal. -/
theorem order_ne_gt_of_lt {x y z : Number} (hxy : x.order y = .lt) (hyz : y.order z ≠ .gt) :
    x.order z ≠ .gt := by
  apply order_trans (y := y)
  · rw [hxy]
    decide
  · exact hyz
  · intro hc
    rw [(order_of_collapsed hc).1] at hxy
    cases hxy

end Number

/-! ## Bounds -/

namespace Bounds

theorem isBelow_iff (b : Bounds) (x : Number) :
    b.isBelow x = true ↔ ∃ min ∈ b.min, x.order min = .lt := by
  unfold isBelow
  cases b.min <;> simp

theorem isAbove_iff (b : Bounds) (x : Number) :
    b.isAbove x = true ↔ ∃ max ∈ b.max, x.order max = .gt := by
  unfold isAbove
  cases b.max <;> simp

theorem contains_min {b : Bounds} (h : b.Ordered) : ∀ min ∈ b.min, b.contains min = true := by
  intro min hmin
  rw [contains_iff_include]
  constructor
  · intro min' hmin'
    obtain rfl : min = min' := Option.mem_unique hmin hmin'
    rw [Number.order_self]
    decide
  · exact h min hmin

theorem contains_max {b : Bounds} (h : b.Ordered) : ∀ max ∈ b.max, b.contains max = true := by
  intro max hmax
  rw [contains_iff_include]
  constructor
  · intro min hmin
    rw [Ne, Number.order_eq_lt_iff]
    exact h min hmin max hmax
  · intro max' hmax'
    obtain rfl : max = max' := Option.mem_unique hmax hmax'
    rw [Number.order_self]
    decide

theorem not_isBelow_and_isAbove {b : Bounds} (h : b.Ordered) (x : Number) :
    ¬ (b.isBelow x = true ∧ b.isAbove x = true) := by
  rintro ⟨hb, ha⟩
  obtain ⟨min, hmin, hlt⟩ := (b.isBelow_iff x).mp hb
  obtain ⟨max, hmax, hgt⟩ := (b.isAbove_iff x).mp ha
  exact Number.order_ne_gt_of_lt hlt (h min hmin max hmax) hgt

/-- Of two tests that never both hold, either may come first. -/
theorem ite_swap {α : Type} {p q : Bool} (h : ¬ (p = true ∧ q = true)) (a b c : α) :
    (if q then b else if p then a else c) = if p then a else if q then b else c := by
  cases p <;> cases q <;> simp_all

theorem rangeVerdictFromAbove_eq {b : Bounds}
    (h : ∀ x, ¬ (b.isBelow x = true ∧ b.isAbove x = true)) :
    Check.rangeVerdictFromAbove b = Check.rangeVerdict b := by
  funext value path
  cases value with
  | none => rfl
  | some v =>
    cases v with
    | number x => exact ite_swap (h x) _ _ _
    | _ => rfl

theorem lengthVerdictFromAbove_eq {b : Bounds}
    (h : ∀ x, ¬ (b.isBelow x = true ∧ b.isAbove x = true)) :
    Check.lengthVerdictFromAbove b = Check.lengthVerdict b := by
  funext value path
  unfold Check.lengthVerdictFromAbove Check.lengthVerdict
  cases value.bind Json.size? with
  | none => rfl
  | some size => exact ite_swap (h (.integer size)) _ _ _

theorem consistent_of_ordered {b : Bounds} (h : b.Ordered) : b.Consistent where
  containsMin := contains_min h
  containsMax := contains_max h
  disjoint := not_isBelow_and_isAbove h
  range := rangeVerdictFromAbove_eq (not_isBelow_and_isAbove h)
  length := lengthVerdictFromAbove_eq (not_isBelow_and_isAbove h)

/-- Inverted bounds do not contain their lower end. -/
theorem consistent_iff (b : Bounds) : b.Consistent ↔ b.isInverted = false := by
  rw [isInverted_eq_false_iff]
  constructor
  · intro h min hmin
    have hc := h.containsMin min hmin
    rw [contains_iff_include] at hc
    exact hc.2
  · exact consistent_of_ordered

end Bounds

/-! ## Accepted schemas -/

theorem FieldSpec.bounds_ordered {spec : Object} {f : FieldSpec} (h : ofObject spec = .ok f)
    {b : Bounds} (hb : b ∈ f.range ∨ b ∈ f.length) : b.Ordered := by
  obtain ⟨-, -, -, -, -, hrange, hlength, -⟩ := (ofObject_eq_ok spec f).mp h
  rcases hb with hb | hb
  · exact ((boundsOf_eq_ok spec "range" f.range).mp hrange).2 b hb
  · exact (((lengthOf_eq_ok spec f.length).mp hlength).2 b hb).1

/-- Each field of an accepted schema has been read from some members. -/
theorem Template.exists_ofObject_of_mem {schema : Object} {t : Template}
    (h : compile schema = .ok t) {f : String × FieldSpec} (hf : f ∈ t.fields) :
    ∃ spec, FieldSpec.ofObject spec = .ok f.2 := by
  have hread : List.Forall₂
      (fun f m => (∃ spec, FieldSpec.ofObject spec = .ok f.2) ∧ FieldSpec.ofJson m.2 = .ok f.2)
      t.fields schema.members := by
    refine ((compile_spec h).2.imp fun m f hm => ?_).flip
    obtain ⟨spec, -, hs⟩ := (FieldSpec.ofJson_eq_ok m.2 f.2).mp hm
    exact ⟨⟨spec, hs⟩, hm⟩
  exact ((List.forall₂_and_left ..).mp hread).1 f hf

/-- Bounds that are not inverted do not contradict themselves, whatever the kinds of their ends:
they contain both, no number is on both sides of them, and a check may test either end first. So it
is with all bounds of accepted schemas. -/
theorem accepted_bounds_consistent :
    (∀ b : Bounds, b.isInverted = false ↔ b.Consistent) ∧
      ∀ schema t, Template.compile schema = .ok t →
        ∀ f ∈ t.fields, ∀ b, b ∈ f.2.range ∨ b ∈ f.2.length → b.Consistent := by
  refine ⟨fun b => b.consistent_iff.symm, fun schema t ht f hf b hb => ?_⟩
  obtain ⟨spec, hs⟩ := Template.exists_ofObject_of_mem ht hf
  exact Bounds.consistent_of_ordered (FieldSpec.bounds_ordered hs hb)

/-- A range from an integer to the double below it to which it is rounded: it is accepted, as the
two compare as equal. -/
theorem accepted_bounds_consistent_rounded :
    let min : Number := .integer 9007199254740993
    let max : Number := .double ⟨false, 1076 * Double.binade⟩
    let range : Bounds := ⟨some min, some max⟩
    let spec : Json := .object [("type", .string "integer"), ("range", range.toJson)]
    let schema : Object := ⟨[("id", spec)], by decide⟩
    range.isInverted = false ∧ range.Consistent ∧
      ∃ t, Template.compile schema = .ok t ∧
        ∃ f ∈ t.fields, range ∈ f.2.range ∧ ∀ b, b ∈ f.2.range ∨ b ∈ f.2.length → b.Consistent := by
  intro min max range spec schema
  obtain ⟨hall, haccepted⟩ := accepted_bounds_consistent
  have hr : range.isInverted = false := by decide +kernel
  have hranges : (Template.compile schema).toOption.map (fun t => t.fields.map fun f => f.2.range) =
      some [some range] := by
    decide +kernel
  refine ⟨hr, (hall range).mp hr, ?_⟩
  cases ht : Template.compile schema with
  | error e =>
    rw [ht] at hranges
    cases hranges
  | ok t =>
    rw [ht] at hranges
    obtain ⟨f, hf, hrange⟩ := List.map_eq_singleton_iff.mp (Option.some.inj hranges)
    have hm : f ∈ t.fields := by
      rw [hf]
      exact List.mem_singleton_self f
    exact ⟨t, rfl, f, hm, hrange, haccepted schema t ht f hm⟩

end PayloadCheck
