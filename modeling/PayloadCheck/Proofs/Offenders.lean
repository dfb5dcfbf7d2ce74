import Mathlib.Data.List.Forall2
import PayloadCheck.Proofs.Conformance

/-!
# Offending elements

What a check says of an array that it goes through element by element, and what every check has in
common.

* `Check.reportsElements_elementwise`: there is one valid verdict on the whole array, or one
  failing verdict for each element that offends, at the place of the element;
* `Check.uniform_verdicts`: the verdicts of one check either pass, and then there is one of them,
  or fail, all of them;
* `offenders_reported_exactly`: the checks on types and on patterns keep to the first, and all
  checks to the second.
-/

namespace PayloadCheck

/-- Verdicts on the elements of an array at a path, each of which should be `Ok`. -/
structure ReportsElements (Ok : Json → Prop) (code : VerdictCode) (items : List Json) (path : Path)
    (vs : List Verdict) : Prop where
  whole_iff : (∃ r, vs = [r] ∧ r.isValid = true ∧ r.path = path) ↔ ∀ item ∈ items, Ok item
  /-- Otherwise the verdicts and the indices of the offending elements go together. -/
  each : (∃ item ∈ items, ¬ Ok item) → ∃ indices : List Nat, indices.Pairwise (· < ·) ∧
    (∀ i, i ∈ indices ↔ ∃ item, items[i]? = some item ∧ ¬ Ok item) ∧
    List.Forall₂ (fun i r => r.code = code ∧ r.path = path ++ [.index i]) indices vs

/-- One verdict that passes, or verdicts that fail, at least one of them. -/
inductive Uniform : List Verdict → Prop
  | passed (r : Verdict) (h : r.isValid = true) : Uniform [r]
  | failed (vs : List Verdict) (hne : vs ≠ []) (h : ∀ r ∈ vs, r.isValid = false) : Uniform vs

theorem uniform_singleton (r : Verdict) : Uniform [r] := by
  cases h : r.isValid with
  | true => exact .passed r h
  | false =>
    apply Uniform.failed [r] (List.cons_ne_nil r [])
    intro r' hr
    rw [List.mem_singleton.mp hr, h]

namespace Check

/-! ## Arrays -/

section Elementwise

variable {passes : Json → Bool} {offence : Json → Path → Verdict} {whole : Verdict}

theorem uniform_elementwise (ho : ∀ v path, (offence v path).isValid = false)
    (hw : whole.isValid = true) (items : List Json) (path : Path) :
    Uniform (elementwise passes offence whole items path) := by
  by_cases hall : ∀ item ∈ items, passes item = true
  · rw [elementwise_of_all hall]
    exact .passed whole hw
  · have hne := mt (offending_eq_nil_iff passes items).mp hall
    rw [elementwise_of_offending hall]
    apply Uniform.failed _ (by simpa using hne)
    intro r hr
    obtain ⟨⟨item, i⟩, -, rfl⟩ := List.mem_map.mp hr
    exact ho item _

variable {Ok : Json → Prop} {code : VerdictCode}

/-- The indices in order, with the verdicts that go with them. -/
theorem forall₂_offending (hp : ∀ v, passes v = true ↔ Ok v)
    (ho : ∀ v path, (offence v path).code = code ∧ (offence v path).path = path)
    (items : List Json) (path : Path) :
    ∃ indices : List Nat, indices.Pairwise (· < ·) ∧
      (∀ i, i ∈ indices ↔ ∃ item, items[i]? = some item ∧ ¬ Ok item) ∧
      List.Forall₂ (fun i (r : Verdict) => r.code = code ∧ r.path = path ++ [.index i]) indices
        ((offending passes items).map fun (item, i) => offence item (path ++ [.index i])) := by
  refine ⟨(offending passes items).map Prod.snd, pairwise_offending passes items, ?_, ?_⟩
  · intro i
    constructor
    · intro hi
      obtain ⟨⟨item, j⟩, hm, rfl⟩ := List.mem_map.mp hi
      obtain ⟨hget, hnot⟩ := (mem_offending_iff passes items item j).mp hm
      exact ⟨item, hget, by simp [← hp, hnot]⟩
    · rintro ⟨item, hget, hnot⟩
      rw [← hp, Bool.not_eq_true] at hnot
      exact List.mem_map_of_mem ((mem_offending_iff passes items item i).mpr ⟨hget, hnot⟩)
  · rw [List.forall₂_map_left_iff, List.forall₂_map_right_iff, List.forall₂_same]
    rintro ⟨item, i⟩ -
    exact ho item _

theorem reportsElements_elementwise (hp : ∀ v, passes v = true ↔ Ok v) (hc : code ≠ .valid)
    (ho : ∀ v path, (offence v path).code = code ∧ (offence v path).path = path)
    (hw : whole.isValid = true) (items : List Json) {path : Path} (hwp : whole.path = path) :
    ReportsElements Ok code items path (elementwise passes offence whole items path) where
  whole_iff := by
    constructor
    · rintro ⟨r, hr, hv, -⟩
      -- A valid verdict is not among those on offending elements, so there are none.
      by_contra hall
      simp only [← hp] at hall
      rw [elementwise_of_offending hall] at hr
      have hm : r ∈ [r] := List.mem_singleton_self r
      rw [← hr] at hm
      obtain ⟨⟨item, i⟩, -, rfl⟩ := List.mem_map.mp hm
      have hcode : (offence item (path ++ [.index i])).code = .valid := by
        simpa [Verdict.isValid, VerdictCode.isValid] using hv
      exact hc ((ho item _).1.symm.trans hcode)
    · intro hall
      simp only [← hp] at hall
      rw [elementwise_of_all hall]
      exact ⟨whole, rfl, hw, hwp⟩
  each := by
    rintro ⟨item, hi, hnot⟩
    have hall : ¬ ∀ item ∈ items, passes item = true := by
      intro hall
      exact hnot ((hp item).mp (hall item hi))
    rw [elementwise_of_offending hall]
    exact forall₂_offending hp ho items path

end Elementwise

/-! ## All checks -/

theorem uniform_typeVerdicts (t : FieldType) (value : Option Json) (path : Path) :
    Uniform (typeVerdicts t value path) := by
  cases value with
  | none => exact uniform_singleton _
  | some v =>
    cases t with
    | scalar s =>
      simp only [typeVerdicts]
      split <;> exact uniform_singleton _
    | arrayOf s =>
      cases v with
      | array items =>
        simp only [typeVerdicts]
        exact uniform_elementwise (fun _ _ => rfl) rfl items path
      | _ => exact uniform_singleton _

theorem uniform_regexVerdicts (p : Pattern) (value : Option Json) (path : Path) :
    Uniform (regexVerdicts p value path) := by
  cases value with
  | none => exact uniform_singleton _
  | some v =>
    cases v with
    | array items =>
      simp only [regexVerdicts]
      exact uniform_elementwise (fun _ _ => rfl) rfl items path
    | _ =>
      simp only [regexVerdicts]
      split <;> exact uniform_singleton _

theorem uniform_verdicts (c : Check) (value : Option Json) (path : Path) :
    Uniform (c.verdicts value path) := by
  cases c with
  | type t => exact uniform_typeVerdicts t value path
  | regex p => exact uniform_regexVerdicts p value path
  | _ => exact uniform_singleton _

end Check

/-- Of an array, the check on the type of its elements and the one on their text each give one
valid verdict exactly if no element offends, and else one failing verdict for each that does, at
its index and in order. Whatever it is about, a check gives one valid verdict or only failing
ones, and at least one. -/
theorem offenders_reported_exactly (path : Path) :
    (∀ (s : ScalarType) (items : List Json),
      ReportsElements s.Admits .invalidType items path
        ((Check.type (.arrayOf s)).verdicts (some (.array items)) path)) ∧
    (∀ (p : Pattern) (items : List Json),
      ReportsElements p.Fits .invalidRegex items path
        ((Check.regex p).verdicts (some (.array items)) path)) ∧
    ∀ (c : Check) (value : Option Json), Uniform (c.verdicts value path) := by
  refine ⟨fun s items => ?_, fun p items => ?_, fun c value => c.uniform_verdicts value path⟩
  · simp only [Check.verdicts, Check.typeVerdicts]
    apply Check.reportsElements_elementwise (Check.accepts_iff s)
    · decide
    · exact fun _ _ => ⟨rfl, rfl⟩
    · rfl
    · rfl
  · simp only [Check.verdicts, Check.regexVerdicts]
    apply Check.reportsElements_elementwise (Check.matchesText_iff p)
    · decide
    · exact fun _ _ => ⟨rfl, rfl⟩
    · rfl
    · rfl

end PayloadCheck
