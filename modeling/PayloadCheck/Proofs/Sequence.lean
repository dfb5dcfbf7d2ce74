import Mathlib.Data.List.Forall2
import PayloadCheck.Proofs.Blocks

/-!
# The sequence of verdicts

What a collect-all run lists, by rules: `FieldSpec.Reports` has one rule for each way in which a
field can come out, and `Template.Reports` puts the fields one behind the other. The rules look at
the specification and at the shape of the value, and know no checks, no order of constraints and no
plan.

* `FieldSpec.reports_iff`: the rules leave no choice, and come to the block of the field;
* `reports_iff_collectAll`: a run lists what the rules say and nothing else.
-/

namespace PayloadCheck

/-! ## The rules -/

namespace FieldSpec

/-- The verdict on a value that is there, if one is asked for. -/
def presencePart (spec : FieldSpec) (path : Path) : List Verdict :=
  (spec.required.map fun _ => ⟨.valid, "defined", "defined", path, "Value is present"⟩).toList

def blankPart (spec : FieldSpec) (v : Json) (path : Path) : List Verdict :=
  if spec.notBlank then [Check.notBlankVerdict (some v) path] else []

/-- Only numbers are looked at. -/
def rangePart (spec : FieldSpec) (v : Json) (path : Path) : List Verdict :=
  match v, spec.range with
  | .number n, some b => [Check.rangeVerdict b (some (.number n)) path]
  | _, _ => []

/-- Only strings and arrays are looked at. -/
def lengthPart (spec : FieldSpec) (v : Json) (path : Path) : List Verdict :=
  match v, spec.length with
  | .string s, some b => [Check.lengthVerdict b (some (.string s)) path]
  | .array items, some b => [Check.lengthVerdict b (some (.array items)) path]
  | _, _ => []

/-- Only strings, numbers and arrays are looked at. -/
def regexPart (spec : FieldSpec) (v : Json) (path : Path) : List Verdict :=
  match v, spec.regex with
  | .string s, some p => Check.regexVerdicts p (some (.string s)) path
  | .number n, some p => Check.regexVerdicts p (some (.number n)) path
  | .array items, some p => Check.regexVerdicts p (some (.array items)) path
  | _, _ => []

/-- What is listed for a value behind the verdict on its presence. -/
inductive ReportsValue (spec : FieldSpec) (path : Path) : Json → List Verdict → Prop
  | null (flag : Bool) (h : spec.nullable = some flag) :
      ReportsValue spec path .null [Check.nullableVerdict flag (some .null) path]
  | any (v : Json) (hn : v = .null → spec.nullable = none) (ht : spec.type = .scalar .any) :
      ReportsValue spec path v (spec.blankPart v path)
  | typed (v : Json) (hn : v = .null → spec.nullable = none) (ht : spec.type ≠ .scalar .any) :
      ReportsValue spec path v
        (spec.blankPart v path ++ Check.typeVerdicts spec.type (some v) path ++
          spec.rangePart v path ++ spec.lengthPart v path ++ spec.regexPart v path)

/-- What is listed for a field. -/
inductive Reports (spec : FieldSpec) (path : Path) : Option Json → List Verdict → Prop
  | undeclared (h : spec.required = none) : Reports spec path none []
  | missing (h : spec.required = some true) :
      Reports spec path none
        [⟨.invalidRequired, "defined", "not defined", path, "Value is required"⟩]
  | optional (h : spec.required = some false) :
      Reports spec path none
        [⟨.valid, "optional", "not defined", path, "Value is not required"⟩]
  | present (v : Json) (vs : List Verdict) (h : spec.ReportsValue path v vs) :
      Reports spec path (some v) (spec.presencePart path ++ vs)

end FieldSpec

namespace Template

def keyVerdicts (t : Template) (payload : Object) : KeyLimit → List Verdict
  | .disabled => []
  | .max n => [(KeyLimiter.mk n t.names).verdict payload]
  | .schemaFields => [(KeyLimiter.mk t.size t.names).verdict payload]

/-- What is listed for a payload: the verdict on its keys, then each field in its turn. -/
def Reports (t : Template) (limit : KeyLimit) (payload : Object) (vs : List Verdict) : Prop :=
  ∃ blocks,
    List.Forall₂ (fun f block => f.2.Reports [.key f.1] (payload.get? f.1) block) t.fields blocks ∧
      vs = t.keyVerdicts payload limit ++ blocks.flatten

end Template

/-! ## The rules come to the block of a field -/

namespace FieldSpec

theorem presencePart_eq (spec : FieldSpec) (v : Json) (path : Path) :
    spec.presencePart path =
      (spec.required.map fun flag => Check.requiredVerdict flag (some v) path).toList := rfl

/-- The kinds of values for which the checks are made are those that the rules look at. -/
theorem typedVerdicts_eq (spec : FieldSpec) (v : Json) (path : Path) :
    spec.typedVerdicts v path =
      Check.typeVerdicts spec.type (some v) path ++ spec.rangePart v path ++
        spec.lengthPart v path ++ spec.regexPart v path := by
  have hr : (if v.kind.isNumeric then
      (spec.range.map fun b => Check.rangeVerdict b (some v) path).toList else []) =
        spec.rangePart v path := by
    unfold rangePart
    cases v with
    | number n => cases n <;> cases spec.range <;> rfl
    | _ => rfl
  have hl : (if v.kind.isSized then
      (spec.length.map fun b => Check.lengthVerdict b (some v) path).toList else []) =
        spec.lengthPart v path := by
    unfold lengthPart
    cases v with
    | number n => cases n <;> rfl
    | string s => cases spec.length <;> rfl
    | array items => cases spec.length <;> rfl
    | _ => rfl
  have hp : (if v.kind.isTextual || v.kind = .array then
      (spec.regex.map fun p => Check.regexVerdicts p (some v) path).getD [] else []) =
        spec.regexPart v path := by
    unfold regexPart
    cases v with
    | number n => cases n <;> cases spec.regex <;> rfl
    | string s => cases spec.regex <;> rfl
    | array items => cases spec.regex <;> rfl
    | _ => rfl
  rw [typedVerdicts, hr, hl, hp]

/-- Unless it is a null that is provided for, a value is looked at. -/
theorem valueVerdicts_of_undecided {spec : FieldSpec} {v : Json}
    (hn : v = .null → spec.nullable = none) (path : Path) :
    spec.valueVerdicts v path =
      spec.blankPart v path ++ if spec.type.isAny then [] else spec.typedVerdicts v path := by
  unfold valueVerdicts blankPart
  split
  · rename_i flag h
    rw [hn rfl] at h
    cases h
  · rfl

theorem isAny_iff (t : FieldType) : t.isAny = true ↔ t = .scalar .any := by
  simp [FieldType.isAny]

theorem valueVerdicts_of_any {spec : FieldSpec} {v : Json}
    (hn : v = .null → spec.nullable = none) (ht : spec.type = .scalar .any) (path : Path) :
    spec.valueVerdicts v path = spec.blankPart v path := by
  rw [valueVerdicts_of_undecided hn, if_pos ((isAny_iff _).mpr ht), List.append_nil]

theorem valueVerdicts_of_typed {spec : FieldSpec} {v : Json}
    (hn : v = .null → spec.nullable = none) (ht : spec.type ≠ .scalar .any) (path : Path) :
    spec.valueVerdicts v path =
      spec.blankPart v path ++ Check.typeVerdicts spec.type (some v) path ++
        spec.rangePart v path ++ spec.lengthPart v path ++ spec.regexPart v path := by
  rw [valueVerdicts_of_undecided hn, if_neg (mt (isAny_iff _).mp ht), typedVerdicts_eq]
  simp only [List.append_assoc]

theorem reportsValue_iff (spec : FieldSpec) (path : Path) (v : Json) (vs : List Verdict) :
    spec.ReportsValue path v vs ↔ vs = spec.valueVerdicts v path := by
  constructor
  · intro h
    cases h with
    | null flag hf => simp only [valueVerdicts, hf]
    | any _ hn ht => exact (valueVerdicts_of_any hn ht path).symm
    | typed _ hn ht => exact (valueVerdicts_of_typed hn ht path).symm
  · rintro rfl
    -- The premise fails for a null that is provided for and for nothing else.
    by_cases hn : v = .null → spec.nullable = none
    · by_cases ht : spec.type = .scalar .any
      · rw [valueVerdicts_of_any hn ht]
        exact .any v hn ht
      · rw [valueVerdicts_of_typed hn ht]
        exact .typed v hn ht
    · obtain ⟨rfl, hs⟩ := Classical.not_imp.mp hn
      obtain ⟨flag, hf⟩ := Option.ne_none_iff_exists'.mp hs
      simp only [valueVerdicts, hf]
      exact .null flag hf

theorem reports_iff (spec : FieldSpec) (path : Path) (value : Option Json) (vs : List Verdict) :
    spec.Reports path value vs ↔ vs = spec.block value path := by
  cases value with
  | none =>
    unfold block
    constructor
    · intro h
      cases h with
      | undeclared h => rw [h]; rfl
      | missing h => rw [h]; rfl
      | optional h => rw [h]; rfl
    · rintro rfl
      cases h : spec.required with
      | none => exact .undeclared h
      | some flag =>
        cases flag with
        | true => exact .missing h
        | false => exact .optional h
  | some v =>
    simp only [block, ← presencePart_eq]
    constructor
    · intro h
      cases h with
      | present _ vs h => rw [(reportsValue_iff spec path v vs).mp h]
    · rintro rfl
      exact .present v _ ((reportsValue_iff spec path v _).mpr rfl)

end FieldSpec

/-! ## Reports on payloads -/

/-- Lists that are determined one by one are determined as a whole. -/
theorem forall₂_eq_iff {α β : Type} (f : α → β) (l : List α) (bs : List β) :
    List.Forall₂ (fun a b => b = f a) l bs ↔ bs = l.map f := by
  rw [eq_comm, ← List.forall₂_eq_eq_eq, List.forall₂_map_left_iff]
  simp only [eq_comm]

namespace Template

theorem keyVerdicts_eq (t : Template) (limit : KeyLimit) (payload : Object) :
    t.keyVerdicts payload limit =
      ((limit.resolve t.size).map fun n => (KeyLimiter.mk n t.names).verdict payload).toList := by
  cases limit <;> rfl

theorem reports_iff_verdicts (t : Template) (limit : KeyLimit) (payload : Object)
    (vs : List Verdict) :
    t.Reports limit payload vs ↔ vs = (Plan.build t limit).verdicts payload := by
  unfold Reports
  simp only [FieldSpec.reports_iff, forall₂_eq_iff, exists_eq_left]
  rw [Plan.verdicts_build, ← keyVerdicts_eq, List.flatMap_def]

end Template

/-- A collect-all run on an empty outcome lists what the rules say, and the rules say nothing
else. -/
theorem reports_iff_collectAll (t : Template) (limit : KeyLimit) (payload : Object)
    (vs : List Verdict) :
    t.Reports limit payload vs ↔
      ((Plan.build t limit).execute payload .collectAll .empty).outcome.verdicts = vs := by
  rw [Plan.verdicts_execute, Template.reports_iff_verdicts]
  exact eq_comm

end PayloadCheck
