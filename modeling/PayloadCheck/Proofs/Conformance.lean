import PayloadCheck.Proofs.Blocks
import PayloadCheck.Proofs.Elements

/-!
# Conformance

`Template.Conforms` says of a payload that it keeps to a template, field by field and without
plans, checks or verdicts. A collect-all run finds a payload valid exactly if it conforms
(`valid_iff_conforms`).
-/

namespace PayloadCheck

/-! ## What a specification asks of a value -/

/-- Null, false, the empty string and the empty array. -/
inductive Json.Blank : Json → Prop
  | null : Blank .null
  | false : Blank (.bool false)
  | string : Blank (.string "")
  | array : Blank (.array [])

/-- The one kind of values that a type is declared for; `any` is for all. -/
def ScalarType.kind? : ScalarType → Option ValueKind
  | null => some .null
  | string => some .string
  | integer => some .integer
  | double => some .double
  | boolean => some .boolean
  | array => some .array
  | object => some .object
  | any => none

def ScalarType.Admits (t : ScalarType) (v : Json) : Prop := ∀ k ∈ t.kind?, v.kind = k

def FieldType.Admits : FieldType → Json → Prop
  | scalar t, v => t.Admits v
  | arrayOf t, v => ∃ items, v = .array items ∧ ∀ item ∈ items, t.Admits item

namespace Bounds

/-- Neither below the lower end nor above the upper one, where there is one. -/
def Include (b : Bounds) (n : Number) : Prop :=
  (∀ min ∈ b.min, n.order min ≠ .lt) ∧ ∀ max ∈ b.max, n.order max ≠ .gt

/-- A number lies within the bounds; of other values nothing is asked. -/
def AdmitsNumber (b : Bounds) : Json → Prop
  | .number n => b.Include n
  | _ => True

/-- The characters of a string or the elements of an array are as many as the bounds allow. -/
def AdmitsSize (b : Bounds) : Json → Prop
  | .string s => b.Include (.integer s.length)
  | .array items => b.Include (.integer items.length)
  | _ => True

end Bounds

namespace Pattern

/-- A string or a number whose text matches. -/
def Fits (p : Pattern) : Json → Prop
  | .string s => p.isMatch s = true
  | .number n => p.isMatch n.text = true
  | _ => False

/-- A string, a number and each element of an array fits; of other values nothing is asked. -/
def Admits (p : Pattern) : Json → Prop
  | .string s => p.Fits (.string s)
  | .number n => p.Fits (.number n)
  | .array items => ∀ item ∈ items, p.Fits item
  | _ => True

end Pattern

/-- The value has the declared type and keeps to the constraints for values of its kind. -/
structure FieldSpec.Admits (spec : FieldSpec) (v : Json) : Prop where
  type : spec.type.Admits v
  range : ∀ b ∈ spec.range, b.AdmitsNumber v
  length : ∀ b ∈ spec.length, b.AdmitsSize v
  regex : ∀ p ∈ spec.regex, p.Admits v

/-- What a field may hold, or that it may be absent. -/
def FieldSpec.Accepts (spec : FieldSpec) : Option Json → Prop
  | none => spec.required ≠ some true
  | some v =>
    match v, spec.nullable with
    | .null, some flag => flag = true
    | v, _ => (spec.notBlank = true → ¬ v.Blank) ∧ (spec.type = .scalar .any ∨ spec.Admits v)

/-- The payload has no more keys than allowed, and each field accepts what it holds of it. -/
structure Template.Conforms (t : Template) (limit : KeyLimit) (payload : Object) : Prop where
  keys : ∀ n ∈ limit.resolve t.size, payload.size ≤ n
  fields : ∀ f ∈ t.fields, f.2.Accepts (payload.get? f.1)

/-! ## When the verdicts of a check are valid -/

@[simp] theorem Verdict.isValid_mk (code : VerdictCode) (expected received : String) (path : Path)
    (message : String) :
    (Verdict.mk code expected received path message).isValid = decide (code = .valid) := rfl

def AllValid (vs : List Verdict) : Prop := ∀ v ∈ vs, v.isValid = true

theorem allValid_nil : AllValid [] := by simp [AllValid]

theorem allValid_singleton (v : Verdict) : AllValid [v] ↔ v.isValid = true := by simp [AllValid]

theorem allValid_append (vs ws : List Verdict) :
    AllValid (vs ++ ws) ↔ AllValid vs ∧ AllValid ws := by
  simp [AllValid, or_imp, forall_and]

theorem allValid_flatMap {α : Type} (l : List α) (f : α → List Verdict) :
    AllValid (l.flatMap f) ↔ ∀ a ∈ l, AllValid (f a) := by
  simp only [AllValid, List.mem_flatMap]
  exact ⟨fun h a ha v hv => h v ⟨a, ha, hv⟩, fun h v ⟨a, ha, hv⟩ => h a ha v hv⟩

theorem allValid_option {α : Type} (o : Option α) (f : α → Verdict) :
    AllValid (o.map f).toList ↔ ∀ a ∈ o, (f a).isValid = true := by
  cases o <;> simp [AllValid]

namespace Check

theorem requiredVerdict_isValid (flag : Bool) (value : Option Json) (path : Path) :
    (requiredVerdict flag value path).isValid = true ↔ (value = none → flag = false) := by
  unfold requiredVerdict
  cases value <;> cases flag <;> simp

theorem nullableVerdict_isValid (flag : Bool) (value : Option Json) (path : Path) :
    (nullableVerdict flag value path).isValid = true ↔ flag = true := by
  unfold nullableVerdict
  cases flag <;> simp

theorem isBlankValue_iff (v : Json) : v.isBlankValue = true ↔ v.Blank := by
  constructor
  · intro h
    cases v with
    | null => exact .null
    | bool b => cases b <;> first | exact .false | simp [Json.isBlankValue] at h
    | string s =>
      obtain rfl : s = "" := by simpa [Json.isBlankValue] using h
      exact .string
    | array items =>
      obtain rfl : items = [] := by simpa [Json.isBlankValue] using h
      exact .array
    | _ => simp [Json.isBlankValue] at h
  · rintro (_ | _) <;> rfl

theorem notBlankVerdict_isValid (v : Json) (path : Path) :
    (notBlankVerdict (some v) path).isValid = true ↔ ¬ v.Blank := by
  rw [← isBlankValue_iff]
  unfold notBlankVerdict
  cases h : v.isBlankValue <;> simp [h]

theorem allValid_elementwise {passes : Json → Bool} {offence : Json → Path → Verdict}
    {whole : Verdict} (ho : ∀ v path, (offence v path).isValid = false)
    (hw : whole.isValid = true) (items : List Json) (path : Path) :
    AllValid (elementwise passes offence whole items path) ↔
      ∀ item ∈ items, passes item = true := by
  by_cases hall : ∀ item ∈ items, passes item = true
  · rw [elementwise_of_all hall]
    exact iff_of_true ((allValid_singleton whole).mpr hw) hall
  · rw [elementwise_of_offending hall]
    refine iff_of_false (fun h => ?_) hall
    have hne := mt (offending_eq_nil_iff passes items).mp hall
    obtain ⟨⟨item, i⟩, hm⟩ := List.exists_mem_of_ne_nil _ hne
    have hv := h _ (List.mem_map_of_mem hm)
    rw [ho] at hv
    cases hv

theorem accepts_iff (t : ScalarType) (v : Json) : t.accepts v.kind = true ↔ t.Admits v := by
  cases t <;> simp [ScalarType.accepts, ScalarType.Admits, ScalarType.kind?]

theorem allValid_typeVerdicts (t : FieldType) (v : Json) (path : Path) :
    AllValid (typeVerdicts t (some v) path) ↔ t.Admits v := by
  cases t with
  | scalar s =>
    rw [FieldType.Admits, ← accepts_iff]
    cases h : s.accepts v.kind <;> simp [typeVerdicts, typeOffence, allValid_singleton, h]
  | arrayOf s =>
    cases v with
    | array items =>
      simp only [typeVerdicts, FieldType.Admits, Json.array.injEq, exists_eq_left', ← accepts_iff]
      exact allValid_elementwise (fun _ _ => rfl) rfl items path
    | _ => simp [typeVerdicts, typeOffence, FieldType.Admits, allValid_singleton]

theorem include_iff (b : Bounds) (n : Number) :
    b.Include n ↔ b.isBelow n = false ∧ b.isAbove n = false := by
  unfold Bounds.Include Bounds.isBelow Bounds.isAbove
  cases b.min <;> cases b.max <;> simp

theorem rangeVerdict_isValid (b : Bounds) (n : Number) (path : Path) :
    (rangeVerdict b (some (.number n)) path).isValid = true ↔ b.Include n := by
  rw [include_iff]
  cases hb : b.isBelow n <;> cases ha : b.isAbove n <;> simp [rangeVerdict, hb, ha]

theorem lengthVerdict_isValid (b : Bounds) {v : Json} {size : Nat} (h : v.size? = some size)
    (path : Path) :
    (lengthVerdict b (some v) path).isValid = true ↔ b.Include (.integer size) := by
  rw [include_iff]
  cases hb : b.isBelow (.integer size) <;> cases ha : b.isAbove (.integer size) <;>
    simp [lengthVerdict, h, hb, ha]

theorem matchesText_iff (p : Pattern) (v : Json) : matchesText p v = true ↔ p.Fits v := by
  cases v <;> simp [matchesText, Json.text?, Pattern.Fits]

theorem allValid_regexVerdicts (p : Pattern) {v : Json}
    (h : (v.kind.isTextual || v.kind = .array) = true) (path : Path) :
    AllValid (regexVerdicts p (some v) path) ↔ p.Admits v := by
  have hs (v : Json) (hv : regexVerdicts p (some v) path =
      if matchesText p v then
        [⟨.valid, "regex " ++ p.source, v.shown, path, "Value matches the regex"⟩]
      else [regexOffence p v path]) : AllValid (regexVerdicts p (some v) path) ↔ p.Fits v := by
    rw [hv, ← matchesText_iff]
    cases matchesText p v <;> simp [allValid_singleton, regexOffence]
  cases v with
  | string s => exact hs _ rfl
  | number n => exact hs _ rfl
  | array items =>
    simp only [Pattern.Admits, ← matchesText_iff]
    exact allValid_elementwise (fun _ _ => rfl) rfl items path
  | _ => simp [Json.kind, ValueKind.isTextual] at h

end Check

/-! ## Fields and payloads -/

namespace FieldSpec

/-- The kinds of values that a check is passed over for are those that it asks nothing of. -/
theorem allValid_range (declared : Option Bounds) (v : Json) (path : Path) :
    AllValid (if v.kind.isNumeric then
        (declared.map fun b => Check.rangeVerdict b (some v) path).toList else []) ↔
      ∀ b ∈ declared, b.AdmitsNumber v := by
  cases v with
  | number n =>
    rw [if_pos (by cases n <;> rfl), allValid_option]
    simp only [Check.rangeVerdict_isValid, Bounds.AdmitsNumber]
  | _ => simp [Json.kind, ValueKind.isNumeric, Bounds.AdmitsNumber, allValid_nil]

theorem allValid_length (declared : Option Bounds) (v : Json) (path : Path) :
    AllValid (if v.kind.isSized then
        (declared.map fun b => Check.lengthVerdict b (some v) path).toList else []) ↔
      ∀ b ∈ declared, b.AdmitsSize v := by
  cases v with
  | string s =>
    have hs : (Json.string s).size? = some s.length := rfl
    rw [if_pos (by rfl), allValid_option]
    simp only [Check.lengthVerdict_isValid _ hs, Bounds.AdmitsSize]
  | array items =>
    have hs : (Json.array items).size? = some items.length := rfl
    rw [if_pos (by rfl), allValid_option]
    simp only [Check.lengthVerdict_isValid _ hs, Bounds.AdmitsSize]
  | number n => cases n <;> simp [Json.kind, ValueKind.isSized, Bounds.AdmitsSize, allValid_nil]
  | _ => simp [Json.kind, ValueKind.isSized, Bounds.AdmitsSize, allValid_nil]

theorem allValid_regex (declared : Option Pattern) (v : Json) (path : Path) :
    AllValid (if v.kind.isTextual || v.kind = .array then
        (declared.map fun p => Check.regexVerdicts p (some v) path).getD [] else []) ↔
      ∀ p ∈ declared, p.Admits v := by
  cases h : (v.kind.isTextual || v.kind = .array) with
  | true =>
    rw [if_pos rfl]
    cases declared with
    | none => simp [allValid_nil]
    | some p => simpa using Check.allValid_regexVerdicts p h path
  | false =>
    cases v with
    | number n => cases n <;> simp [Json.kind, ValueKind.isTextual] at h
    | string s => simp [Json.kind, ValueKind.isTextual] at h
    | array items => simp [Json.kind] at h
    | _ => simp [Pattern.Admits, allValid_nil]

theorem allValid_typedVerdicts (spec : FieldSpec) (v : Json) (path : Path) :
    AllValid (spec.typedVerdicts v path) ↔ spec.Admits v := by
  unfold typedVerdicts
  rw [allValid_append, allValid_append, allValid_append, Check.allValid_typeVerdicts,
    allValid_range, allValid_length, allValid_regex]
  constructor
  · rintro ⟨⟨⟨ht, hr⟩, hl⟩, hp⟩
    exact ⟨ht, hr, hl, hp⟩
  · rintro ⟨ht, hr, hl, hp⟩
    exact ⟨⟨⟨ht, hr⟩, hl⟩, hp⟩

theorem allValid_undecided (spec : FieldSpec) (v : Json) (path : Path) :
    AllValid ((if spec.notBlank then [Check.notBlankVerdict (some v) path] else []) ++
        if spec.type.isAny then [] else spec.typedVerdicts v path) ↔
      (spec.notBlank = true → ¬ v.Blank) ∧ (spec.type = .scalar .any ∨ spec.Admits v) := by
  rw [allValid_append]
  apply and_congr
  · cases spec.notBlank <;>
      simp [allValid_nil, allValid_singleton, Check.notBlankVerdict_isValid]
  · cases h : spec.type.isAny with
    | true => simpa [allValid_nil, FieldType.isAny] using Or.inl h
    | false =>
      have hne : spec.type ≠ .scalar .any := by simpa [FieldType.isAny] using h
      simp [allValid_typedVerdicts, hne]

theorem allValid_valueVerdicts (spec : FieldSpec) (v : Json) (path : Path) :
    AllValid (spec.valueVerdicts v path) ↔ spec.Accepts (some v) := by
  simp only [valueVerdicts, Accepts]
  cases spec.nullable with
  | none => cases v <;> exact allValid_undecided spec _ path
  | some flag =>
    cases v with
    | null => exact (allValid_singleton _).trans (Check.nullableVerdict_isValid _ _ _)
    | _ => exact allValid_undecided spec _ path

theorem allValid_block (spec : FieldSpec) (value : Option Json) (path : Path) :
    AllValid (spec.block value path) ↔ spec.Accepts value := by
  unfold block
  rw [allValid_append, allValid_option]
  simp only [Check.requiredVerdict_isValid]
  cases value with
  | none => cases h : spec.required <;> simp [Accepts, allValid_nil, h]
  | some v => simpa using allValid_valueVerdicts spec v path

end FieldSpec

theorem KeyLimiter.verdict_isValid (l : KeyLimiter) (payload : Object) :
    (l.verdict payload).isValid = true ↔ payload.size ≤ l.limit := by
  unfold verdict
  split <;> simp_all

/-- A collect-all run finds a payload valid exactly if it conforms to the template. -/
theorem valid_iff_conforms (t : Template) (limit : KeyLimit) (payload : Object) :
    ((Plan.build t limit).execute payload .collectAll .empty).outcome.isValid = true ↔
      t.Conforms limit payload := by
  have hk := allValid_option (limit.resolve t.size) fun n =>
    (KeyLimiter.mk n t.names).verdict payload
  have hf := allValid_flatMap t.fields fun f => f.2.block (payload.get? f.1) [.key f.1]
  simp only [KeyLimiter.verdict_isValid] at hk
  simp only [FieldSpec.allValid_block] at hf
  rw [Plan.execute_outcome, Outcome.isValid_pushAll, Mode.recorded, Plan.verdicts_build]
  constructor
  · rintro ⟨-, h⟩
    obtain ⟨h1, h2⟩ := (allValid_append _ _).mp h
    exact ⟨hk.mp h1, hf.mp h2⟩
  · rintro ⟨h1, h2⟩
    exact ⟨rfl, (allValid_append _ _).mpr ⟨hk.mpr h1, hf.mpr h2⟩⟩

end PayloadCheck
