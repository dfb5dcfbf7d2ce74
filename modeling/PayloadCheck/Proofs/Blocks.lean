import Mathlib.Data.List.Basic
import PayloadCheck.Proofs.Runs

/-!
# The verdicts on a field

`FieldSpec.block` is what the specification of a field has to say about a value or its absence, by
cases on the value and without checks or their order. `verdicts_build` says that a built plan
consists of such blocks, one for each field, behind the verdict on the number of keys.
-/

namespace PayloadCheck

namespace FieldSpec

/-- The verdicts on a value whose type is looked at. -/
def typedVerdicts (spec : FieldSpec) (v : Json) (path : Path) : List Verdict :=
  Check.typeVerdicts spec.type (some v) path ++
    (if v.kind.isNumeric then
      (spec.range.map fun b => Check.rangeVerdict b (some v) path).toList else []) ++
    (if v.kind.isSized then
      (spec.length.map fun b => Check.lengthVerdict b (some v) path).toList else []) ++
    (if v.kind.isTextual || v.kind = .array then
      (spec.regex.map fun p => Check.regexVerdicts p (some v) path).getD [] else [])

/-- The verdicts on a value that is there, but for the one on its presence. -/
def valueVerdicts (spec : FieldSpec) (v : Json) (path : Path) : List Verdict :=
  match v, spec.nullable with
  | .null, some flag => [Check.nullableVerdict flag (some .null) path]
  | v, _ =>
    (if spec.notBlank then [Check.notBlankVerdict (some v) path] else []) ++
      if spec.type.isAny then [] else spec.typedVerdicts v path

def block (spec : FieldSpec) (value : Option Json) (path : Path) : List Verdict :=
  (spec.required.map fun flag => Check.requiredVerdict flag value path).toList ++
    match value with
    | none => []
    | some v => spec.valueVerdicts v path

end FieldSpec

/-! ## The checks of a field come to its block -/

namespace Check

theorem ofSpec_eq (spec : FieldSpec) :
    ofSpec spec =
      (spec.required.map required).toList ++ ((spec.nullable.map nullable).toList ++
        ((if spec.notBlank then [notBlank] else []) ++ type spec.type ::
          ((spec.range.map range).toList ++ ((spec.length.map length).toList ++
            ((spec.regex.map regex).toList ++ []))))) := by
  unfold ofSpec
  rw [List.filterMap_eq_flatMap_toList]
  cases h : spec.notBlank <;> simp [ConstraintKind.fieldOrder, ofConstraint?, h]

/-! What a check that is passed over for other kinds of values contributes. -/

theorem contribution_range (b : Bounds) (v : Json) (path : Path) :
    (range b).contribution (some v) path =
      (if v.kind.isNumeric then [rangeVerdict b (some v) path] else [], false) := rfl

theorem contribution_length (b : Bounds) (v : Json) (path : Path) :
    (length b).contribution (some v) path =
      (if v.kind.isSized then [lengthVerdict b (some v) path] else [], false) := rfl

theorem contribution_regex (p : Pattern) (v : Json) (path : Path) :
    (regex p).contribution (some v) path =
      (if v.kind.isTextual || v.kind = .array then regexVerdicts p (some v) path else [], false) :=
  rfl

/-- A constraint that is not declared, or whose check leaves the field undecided, hands on to the
next. -/
theorem sequence_declared {α : Type} {value : Option Json} {path : Path} {check : α → Check}
    (h : ∀ a, ((check a).contribution value path).2 = false) (declared : Option α)
    (rest : List Check) :
    sequence value path ((declared.map check).toList ++ rest) =
      (declared.map fun a => ((check a).contribution value path).1).getD [] ++
        sequence value path rest := by
  cases declared with
  | none => rfl
  | some a => simp [sequence, h]

/-- The checks behind the one on the type never decide a field. -/
theorem sequence_guarded (spec : FieldSpec) (v : Json) (path : Path) :
    sequence (some v) path ((spec.range.map range).toList ++ ((spec.length.map length).toList ++
        ((spec.regex.map regex).toList ++ []))) =
      (if v.kind.isNumeric then
        (spec.range.map fun b => rangeVerdict b (some v) path).toList else []) ++
      (if v.kind.isSized then
        (spec.length.map fun b => lengthVerdict b (some v) path).toList else []) ++
      (if v.kind.isTextual || v.kind = .array then
        (spec.regex.map fun p => regexVerdicts p (some v) path).getD [] else []) := by
  rw [sequence_declared fun _ => rfl, sequence_declared fun _ => rfl,
    sequence_declared fun _ => rfl]
  simp only [contribution_range, contribution_length, contribution_regex]
  cases spec.range <;> cases spec.length <;> cases spec.regex <;> simp [sequence]

theorem sequence_type (t : FieldType) (v : Json) (path : Path) (rest : List Check) :
    sequence (some v) path (type t :: rest) =
      if t.isAny then [] else typeVerdicts t (some v) path ++ sequence (some v) path rest := by
  cases h : t.isAny <;> simp [sequence, contribution, verdicts, h]

theorem sequence_notBlank (declared : Bool) (v : Json) (path : Path) (rest : List Check) :
    sequence (some v) path ((if declared then [notBlank] else []) ++ rest) =
      (if declared then [notBlankVerdict (some v) path] else []) ++
        sequence (some v) path rest := by
  cases declared <;> simp [sequence, contribution, verdicts]

/-- Null is decided by the check on it, if there is one. -/
theorem sequence_nullable (declared : Option Bool) (v : Json) (path : Path) (rest : List Check) :
    sequence (some v) path ((declared.map nullable).toList ++ rest) =
      match v, declared with
      | .null, some flag => [nullableVerdict flag (some .null) path]
      | v, _ => sequence (some v) path rest := by
  cases declared with
  | none => cases v <;> rfl
  | some flag => cases v <;> simp [sequence, contribution, verdicts, Json.isNull]

/-- A field that is absent is decided by its first check. -/
theorem sequence_absent (spec : FieldSpec) (path : Path) :
    sequence none path (ofSpec spec) =
      (spec.required.map fun flag => requiredVerdict flag none path).toList := by
  rw [ofSpec_eq]
  cases spec.required with
  | some flag => simp [sequence, contribution, verdicts]
  | none => cases spec.nullable <;> cases spec.notBlank <;> rfl

/-- The checks of a field come to its block. -/
theorem sequence_ofSpec (spec : FieldSpec) (value : Option Json) (path : Path) :
    sequence value path (ofSpec spec) = spec.block value path := by
  cases value with
  | none => rw [sequence_absent, FieldSpec.block, List.append_nil]
  | some v =>
    rw [ofSpec_eq, sequence_declared fun _ => rfl, sequence_nullable, FieldSpec.block]
    congr 1
    · cases spec.required <;> rfl
    · simp only [FieldSpec.valueVerdicts]
      split
      · rfl
      · rw [sequence_notBlank, sequence_type, sequence_guarded]
        simp only [FieldSpec.typedVerdicts, List.append_assoc]

end Check

/-! ## Plans -/

namespace Plan

/-- A built plan says what the blocks of the fields say, behind the limit on the keys. -/
theorem verdicts_build (t : Template) (limit : KeyLimit) (payload : Object) :
    (build t limit).verdicts payload =
      ((limit.resolve t.size).map fun n => (KeyLimiter.mk n t.names).verdict payload).toList ++
        t.fields.flatMap fun f => f.2.block (payload.get? f.1) [.key f.1] := by
  simp only [Plan.verdicts, build, Option.map_map, List.flatMap_map]
  congr 1
  simp only [FieldPlan.verdicts, Check.sequence_ofSpec]

end Plan

end PayloadCheck
