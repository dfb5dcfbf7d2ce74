import Mathlib.Data.List.Forall2
import PayloadCheck.Proofs.Rounding
import PayloadCheck.Schema.Template

/-!
# Accepted schemas

`WellFormed` says of what a schema holds for a field that it specifies one, and `Declares` which
specification it is; both look at the members of an object only and at no rule of the compiler.
Compiling accepts a schema exactly if it is well-formed for each field, and copies what it declares
(`compile_accepts_exactly`).
-/

namespace PayloadCheck

/-! ## How a specification is written -/

def constraintKeys : List String :=
  ["type", "required", "nullable", "notBlank", "not_blank", "range", "length", "regex"]

def flagKeys : List String := ["required", "nullable", "notBlank", "not_blank"]

def typeNames : List (String × ScalarType) :=
  [("null", .null), ("string", .string), ("integer", .integer), ("double", .double),
    ("float", .double), ("boolean", .boolean), ("array", .array), ("object", .object),
    ("any", .any)]

/-- The text is a name of the type: of a scalar type as it is, of an array type with one pair of
brackets behind the name of the element type. -/
inductive FieldType.Named : String → FieldType → Prop
  | scalar {name : String} {t : ScalarType} (h : (name, t) ∈ typeNames) : Named name (.scalar t)
  | arrayOf {name : String} {t : ScalarType} (h : (name, t) ∈ typeNames) :
      Named (name ++ "[]") (.arrayOf t)

/-- Below zero in value, which negative zero is not. -/
def Number.Negative : Number → Prop
  | integer n => n < 0
  | double x => x.units < 0

namespace Bounds

def endToJson : Option Number → Json
  | none => .null
  | some n => .number n

/-- How bounds are written. -/
def toJson (b : Bounds) : Json := .array [endToJson b.min, endToJson b.max]

def Ordered (b : Bounds) : Prop := ∀ min ∈ b.min, ∀ max ∈ b.max, min.order max ≠ .gt

def Nonnegative (b : Bounds) : Prop := (∀ n ∈ b.min, ¬ n.Negative) ∧ ∀ n ∈ b.max, ¬ n.Negative

end Bounds

/-- The members specify a field. -/
structure Object.WellFormed (spec : Object) : Prop where
  keys : ∀ key ∈ spec.keys, key ∈ constraintKeys
  type : ∃ name t, spec.get? "type" = some (.string name) ∧ FieldType.Named name t
  flags : ∀ key ∈ flagKeys, ∀ v, spec.get? key = some v → ∃ b, v = .bool b
  range : ∀ v, spec.get? "range" = some v → ∃ b : Bounds, v = b.toJson ∧ b.Ordered
  length : ∀ v, spec.get? "length" = some v →
    ∃ b : Bounds, v = b.toJson ∧ b.Ordered ∧ b.Nonnegative
  regex : ∀ v, spec.get? "regex" = some v →
    ∃ source, v = .string source ∧ (Pattern.compile? source).isSome

/-- The members say what the specification of the field says, and it says no more. -/
structure Object.Declares (spec : Object) (f : FieldSpec) : Prop where
  type : ∃ name, spec.get? "type" = some (.string name) ∧ FieldType.Named name f.type
  required : spec.get? "required" = f.required.map .bool
  nullable : spec.get? "nullable" = f.nullable.map .bool
  notBlank : f.notBlank = true ↔
    spec.get? "notBlank" = some (.bool true) ∨ spec.get? "not_blank" = some (.bool true)
  range : spec.get? "range" = f.range.map Bounds.toJson
  length : spec.get? "length" = f.length.map Bounds.toJson
  regex : spec.get? "regex" = f.regex.map fun p => .string p.source
  program : ∀ p ∈ f.regex, Pattern.compile? p.source = some p

namespace Json

def WellFormed (raw : Json) : Prop := ∃ spec, raw.toObject? = some spec ∧ spec.WellFormed

def Declares (raw : Json) (f : FieldSpec) : Prop :=
  ∃ spec, raw.toObject? = some spec ∧ spec.Declares f

/-- Both spellings of one flag are there. -/
def HasBothSpellings (raw : Json) : Prop :=
  ∃ spec, raw.toObject? = some spec ∧
    (spec.get? "notBlank").isSome ∧ (spec.get? "not_blank").isSome

end Json

/-! ## The rules, one by one -/

theorem bind_eq_ok {ε α β : Type} {x : Except ε α} {f : α → Except ε β} {b : β} :
    x >>= f = .ok b ↔ ∃ a, x = .ok a ∧ f a = .ok b := by
  cases x <;> simp [bind, Except.bind]

theorem Number.isNegative_iff (n : Number) : n.isNegative = true ↔ n.Negative := by
  cases n with
  | integer n => simp [isNegative, Negative]
  | double x =>
    simp only [isNegative, Negative, Double.isNegative, Double.units, Bool.and_eq_true, bne_iff_ne]
    cases x.negative with
    | true =>
      simp only [↓reduceIte, true_and]
      constructor
      · intro h
        have := Double.unitsOf_pos h
        omega
      · intro h hz
        simp [hz, Double.unitsOf, Double.binade] at h
    | false => simp

theorem Bounds.isInverted_eq_false_iff (b : Bounds) : b.isInverted = false ↔ b.Ordered := by
  unfold isInverted Ordered
  cases b.min <;> cases b.max <;> simp

theorem Bounds.hasNegative_eq_false_iff (b : Bounds) : b.hasNegative = false ↔ b.Nonnegative := by
  unfold hasNegative Nonnegative
  cases b.min <;> cases b.max <;> simp [← Number.isNegative_iff]

theorem ofKey?_isNone (key : String) :
    (ConstraintKind.ofKey? key).isNone = false ↔ key ∈ constraintKeys := by
  unfold ConstraintKind.ofKey? constraintKeys
  split <;> simp_all

theorem ScalarType.ofName?_eq_some_iff (name : String) (t : ScalarType) :
    ScalarType.ofName? name = some t ↔ (name, t) ∈ typeNames := by
  unfold ScalarType.ofName? typeNames
  split <;> simp_all [eq_comm]

theorem FieldType.ofName?_append (name : String) :
    FieldType.ofName? (name ++ "[]") = (ScalarType.ofName? name).map arrayOf := by
  have hs : arrayMark.isSuffixOf (name ++ "[]").toList = true := by
    rw [List.isSuffixOf_iff_suffix, String.toList_append]
    exact List.suffix_append _ _
  have ht : (name ++ "[]").toList.take ((name ++ "[]").toList.length - arrayMark.length) =
      name.toList := by
    simp [arrayMark]
  simp only [ofName?, hs, ht, String.ofList_toList, ↓reduceIte]

theorem FieldType.ofName?_of_not_suffix {name : String} (h : ∀ base, name ≠ base ++ "[]") :
    FieldType.ofName? name = (ScalarType.ofName? name).map scalar := by
  have hs : arrayMark.isSuffixOf name.toList = false := by
    rw [Bool.eq_false_iff, Ne, List.isSuffixOf_iff_suffix]
    rintro ⟨base, hb⟩
    apply h (String.ofList base)
    rw [← String.toList_inj, String.toList_append, String.toList_ofList]
    exact hb.symm
  simp [ofName?, hs]

/-- No name of a scalar type ends in brackets. -/
theorem typeNames_ne_append {name : String} {t : ScalarType} (h : (name, t) ∈ typeNames)
    (base : String) : name ≠ base ++ "[]" := by
  have hl : ∀ entry ∈ typeNames, entry.1.toList.getLast? ≠ some ']' := by decide
  rintro rfl
  apply hl _ h
  simp

theorem FieldType.ofName?_eq_some_iff (name : String) (t : FieldType) :
    FieldType.ofName? name = some t ↔ FieldType.Named name t := by
  constructor
  · intro h
    by_cases hb : ∃ base, name = base ++ "[]"
    · obtain ⟨base, rfl⟩ := hb
      rw [ofName?_append] at h
      obtain ⟨s, hs, rfl⟩ := Option.map_eq_some_iff.mp h
      exact .arrayOf ((ScalarType.ofName?_eq_some_iff _ _).mp hs)
    · rw [ofName?_of_not_suffix (by simpa using hb)] at h
      obtain ⟨s, hs, rfl⟩ := Option.map_eq_some_iff.mp h
      exact .scalar ((ScalarType.ofName?_eq_some_iff _ _).mp hs)
  · rintro (h | h)
    · rw [ofName?_of_not_suffix (typeNames_ne_append h), (ScalarType.ofName?_eq_some_iff _ _).mpr h]
      rfl
    · rw [ofName?_append, (ScalarType.ofName?_eq_some_iff _ _).mpr h]
      rfl

namespace FieldSpec

theorem checkKeys_eq_ok (spec : Object) :
    checkKeys spec = .ok () ↔ ∀ key ∈ spec.keys, key ∈ constraintKeys := by
  simp only [← ofKey?_isNone]
  unfold checkKeys
  split
  · rename_i key h
    have hm := List.mem_of_find?_eq_some h
    have hk := List.find?_some h
    simp only [reduceCtorEq, false_iff]
    intro hall
    rw [hall key hm] at hk
    cases hk
  · rename_i h
    simpa [← Option.isSome_iff_ne_none] using h

theorem typeOf_eq_ok (spec : Object) (t : FieldType) :
    typeOf spec = .ok t ↔
      ∃ name, spec.get? "type" = some (.string name) ∧ FieldType.Named name t := by
  simp only [← FieldType.ofName?_eq_some_iff]
  unfold typeOf
  split
  · simp_all
  · split <;> simp_all
  · simp_all

theorem flagOf_eq_ok (spec : Object) (key : String) (flag : Option Bool) :
    flagOf spec [key] = .ok flag ↔ spec.get? key = flag.map .bool := by
  cases h : spec.get? key with
  | none => cases flag <;> simp [flagOf, h]
  | some v => cases v <;> cases flag <;> simp [flagOf, h]

/-- Of two spellings the first that is there counts. -/
theorem flagOf_pair_eq_ok (spec : Object) (key other : String) (flag : Option Bool) :
    flagOf spec [key, other] = .ok flag ↔
      (spec.get? key).or (spec.get? other) = flag.map .bool := by
  cases hk : spec.get? key with
  | none => simpa [flagOf, hk] using flagOf_eq_ok spec other flag
  | some v => cases v <;> cases flag <;> simp [flagOf, hk]

theorem boundOf_eq_ok (key : String) (v : Json) (n : Option Number) :
    boundOf key v = .ok n ↔ v = Bounds.endToJson n := by
  cases v <;> cases n <;> simp [boundOf, Bounds.endToJson]

theorem boundsOf_of_pair {spec : Object} {key : String} {first second : Json}
    (h : spec.get? key = some (.array [first, second])) (b : Option Bounds) :
    boundsOf spec key = .ok b ↔
      ∃ b', b = some b' ∧ .array [first, second] = b'.toJson ∧ b'.Ordered := by
  simp only [boundsOf, h, bind_eq_ok, boundOf_eq_ok, Bounds.toJson]
  constructor
  · rintro ⟨min, rfl, max, rfl, hb⟩
    cases hi : (Bounds.mk min max).isInverted with
    | true => simp [hi] at hb
    | false =>
      obtain rfl : some ⟨min, max⟩ = b := by simpa [hi] using hb
      exact ⟨_, rfl, rfl, (Bounds.isInverted_eq_false_iff _).mp hi⟩
  · rintro ⟨⟨min, max⟩, rfl, hb, ho⟩
    obtain ⟨rfl, rfl⟩ : first = Bounds.endToJson min ∧ second = Bounds.endToJson max := by
      simpa using hb
    exact ⟨min, rfl, max, rfl, by simp [(Bounds.isInverted_eq_false_iff _).mpr ho]⟩

theorem boundsOf_eq_ok (spec : Object) (key : String) (b : Option Bounds) :
    boundsOf spec key = .ok b ↔ spec.get? key = b.map Bounds.toJson ∧ ∀ b' ∈ b, b'.Ordered := by
  by_cases hp : ∃ first second, spec.get? key = some (.array [first, second])
  · obtain ⟨first, second, h⟩ := hp
    rw [boundsOf_of_pair h, h]
    cases b <;> simp
  · unfold boundsOf
    split
    · rename_i h
      cases b <;> simp [h]
    · rename_i first second h
      exact absurd ⟨first, second, h⟩ hp
    · rename_i v hn h
      simp only [reduceCtorEq, false_iff, not_and]
      cases b with
      | none => simp [h]
      | some b => exact fun hb => absurd ⟨_, _, hb⟩ hp

theorem lengthOf_eq_ok (spec : Object) (b : Option Bounds) :
    lengthOf spec = .ok b ↔
      spec.get? "length" = b.map Bounds.toJson ∧ ∀ b' ∈ b, b'.Ordered ∧ b'.Nonnegative := by
  simp only [lengthOf, bind_eq_ok, boundsOf_eq_ok]
  constructor
  · rintro ⟨found, ⟨hf, ho⟩, hb⟩
    cases found with
    | none =>
      obtain rfl : none = b := by simpa using hb
      exact ⟨hf, by simp⟩
    | some b' =>
      cases hn : b'.hasNegative with
      | true => simp [hn] at hb
      | false =>
        obtain rfl : some b' = b := by simpa [hn] using hb
        refine ⟨hf, fun b hb => ?_⟩
        obtain rfl : b' = b := by simpa using hb
        exact ⟨ho _ rfl, (Bounds.hasNegative_eq_false_iff _).mp hn⟩
  · rintro ⟨hf, hb⟩
    refine ⟨b, ⟨hf, fun b' h => (hb b' h).1⟩, ?_⟩
    cases b with
    | none => rfl
    | some b' => simp [(Bounds.hasNegative_eq_false_iff _).mpr (hb b' rfl).2]

theorem source_of_compile? {source : String} {p : Pattern} (h : Pattern.compile? source = some p) :
    p.source = source := by
  unfold Pattern.compile? at h
  obtain ⟨program, -, rfl⟩ := Option.map_eq_some_iff.mp h
  rfl

theorem regexOf_eq_ok (spec : Object) (p : Option Pattern) :
    regexOf spec = .ok p ↔
      spec.get? "regex" = p.map (fun p => .string p.source) ∧
        ∀ p' ∈ p, Pattern.compile? p'.source = some p' := by
  unfold regexOf
  split
  · rename_i h
    cases p <;> simp [h]
  · rename_i source h
    rw [h]
    split
    · rename_i found hf
      have hs := source_of_compile? hf
      cases p with
      | none => simp
      | some p =>
        simp only [Except.ok.injEq, Option.some.injEq, Option.map_some, Json.string.injEq]
        constructor
        · rintro rfl
          exact ⟨hs.symm, fun p' hp => by cases hp; rw [hs, hf]⟩
        · rintro ⟨rfl, hp⟩
          exact Option.some.inj (hf.symm.trans (hp p rfl))
    · rename_i hf
      cases p with
      | none => simp
      | some p =>
        simp only [reduceCtorEq, false_iff, not_and, Option.map_some, Option.some.injEq,
          Json.string.injEq]
        rintro rfl hp
        rw [hp p rfl] at hf
        cases hf
  · rename_i v hn h
    cases p <;> simp_all

/-! ## The specification of a field -/

/-- A field is in order if each rule is kept. -/
theorem ofObject_eq_ok (spec : Object) (f : FieldSpec) :
    ofObject spec = .ok f ↔
      checkKeys spec = .ok () ∧ typeOf spec = .ok f.type ∧
        flagOf spec ["required"] = .ok f.required ∧ flagOf spec ["nullable"] = .ok f.nullable ∧
        (∃ flag, flagOf spec ["notBlank", "not_blank"] = .ok flag ∧ f.notBlank = flag.getD false) ∧
        boundsOf spec "range" = .ok f.range ∧ lengthOf spec = .ok f.length ∧
        regexOf spec = .ok f.regex := by
  simp only [ofObject, bind_eq_ok]
  constructor
  · rintro ⟨_, hk, t, ht, r, hr, n, hn, b, hb, rg, hrg, l, hl, p, hp, he⟩
    cases he
    exact ⟨hk, ht, hr, hn, ⟨b, hb, rfl⟩, hrg, hl, hp⟩
  · rintro ⟨hk, ht, hr, hn, ⟨b, hb, he⟩, hrg, hl, hp⟩
    refine ⟨_, hk, _, ht, _, hr, _, hn, _, hb, _, hrg, _, hl, _, hp, ?_⟩
    rw [← he]
    rfl

/-- What is written, if anything is, is what some value with the property is written as. -/
theorem exists_written_iff {α : Type} (found : Option Json) (write : α → Json) (P : α → Prop) :
    (∃ declared : Option α, found = declared.map write ∧ ∀ a ∈ declared, P a) ↔
      ∀ v, found = some v → ∃ a, v = write a ∧ P a := by
  constructor
  · rintro ⟨declared, rfl, h⟩ v hv
    obtain ⟨a, rfl, rfl⟩ := Option.map_eq_some_iff.mp hv
    exact ⟨a, rfl, h a rfl⟩
  · intro h
    cases found with
    | none => exact ⟨none, rfl, nofun⟩
    | some v =>
      obtain ⟨a, rfl, ha⟩ := h v rfl
      exact ⟨some a, rfl, fun a' h => Option.some.inj h ▸ ha⟩

theorem exists_flagOf_iff (spec : Object) (key : String) :
    (∃ flag, flagOf spec [key] = .ok flag) ↔
      ∀ v, spec.get? key = some v → ∃ b, v = .bool b := by
  simpa [flagOf_eq_ok] using exists_written_iff (spec.get? key) Json.bool fun _ => True

/-- Where one spelling at most is there, both are looked at. -/
theorem exists_flagOf_pair_iff {spec : Object} {key other : String}
    (h : ¬ ((spec.get? key).isSome ∧ (spec.get? other).isSome)) :
    (∃ flag, flagOf spec [key, other] = .ok flag) ↔
      (∀ v, spec.get? key = some v → ∃ b, v = .bool b) ∧
        ∀ v, spec.get? other = some v → ∃ b, v = .bool b := by
  have hw := exists_written_iff ((spec.get? key).or (spec.get? other)) Json.bool fun _ => True
  simp only [implies_true, and_true] at hw
  simp only [flagOf_pair_eq_ok]
  rw [hw]
  cases hk : spec.get? key <;> cases ho : spec.get? other <;> simp_all

theorem exists_boundsOf_iff (spec : Object) (key : String) :
    (∃ b, boundsOf spec key = .ok b) ↔
      ∀ v, spec.get? key = some v → ∃ b : Bounds, v = b.toJson ∧ b.Ordered := by
  simp only [boundsOf_eq_ok]
  exact exists_written_iff _ _ _

theorem exists_lengthOf_iff (spec : Object) :
    (∃ b, lengthOf spec = .ok b) ↔
      ∀ v, spec.get? "length" = some v →
        ∃ b : Bounds, v = b.toJson ∧ b.Ordered ∧ b.Nonnegative := by
  simp only [lengthOf_eq_ok]
  exact exists_written_iff _ _ _

theorem exists_regexOf_iff (spec : Object) :
    (∃ p, regexOf spec = .ok p) ↔
      ∀ v, spec.get? "regex" = some v →
        ∃ source, v = .string source ∧ (Pattern.compile? source).isSome := by
  simp only [regexOf_eq_ok]
  rw [exists_written_iff]
  refine forall₂_congr fun v _ => ⟨?_, ?_⟩
  · rintro ⟨p, rfl, hp⟩
    exact ⟨p.source, rfl, by rw [hp]; rfl⟩
  · rintro ⟨source, rfl, hp⟩
    obtain ⟨p, hp⟩ := Option.isSome_iff_exists.mp hp
    obtain rfl := source_of_compile? hp
    exact ⟨p, rfl, hp⟩

theorem exists_ofObject_iff {spec : Object}
    (h : ¬ ((spec.get? "notBlank").isSome ∧ (spec.get? "not_blank").isSome)) :
    (∃ f, ofObject spec = .ok f) ↔ spec.WellFormed := by
  have hb := exists_flagOf_pair_iff h
  simp only [ofObject_eq_ok]
  constructor
  · rintro ⟨f, hk, ht, hr, hn, ⟨flag, hf, -⟩, hrg, hl, hp⟩
    obtain ⟨hf, hf'⟩ := hb.mp ⟨flag, hf⟩
    obtain ⟨name, hname, hnamed⟩ := (typeOf_eq_ok _ _).mp ht
    refine ⟨(checkKeys_eq_ok _).mp hk, ⟨name, _, hname, hnamed⟩, ?_,
      (exists_boundsOf_iff _ _).mp ⟨_, hrg⟩, (exists_lengthOf_iff _).mp ⟨_, hl⟩,
      (exists_regexOf_iff _).mp ⟨_, hp⟩⟩
    have hr := (exists_flagOf_iff _ _).mp ⟨_, hr⟩
    have hn := (exists_flagOf_iff _ _).mp ⟨_, hn⟩
    simp only [flagKeys, List.forall_mem_cons]
    exact ⟨hr, hn, hf, hf', nofun⟩
  · rintro ⟨hk, ⟨name, t, hname, hnamed⟩, hflags, hrg, hl, hp⟩
    obtain ⟨r, hr⟩ := (exists_flagOf_iff _ _).mpr (hflags "required" (by decide))
    obtain ⟨n, hn⟩ := (exists_flagOf_iff _ _).mpr (hflags "nullable" (by decide))
    obtain ⟨b, hb⟩ := hb.mpr ⟨hflags "notBlank" (by decide), hflags "not_blank" (by decide)⟩
    obtain ⟨rg, hrg⟩ := (exists_boundsOf_iff _ _).mpr hrg
    obtain ⟨l, hl⟩ := (exists_lengthOf_iff _).mpr hl
    obtain ⟨p, hp⟩ := (exists_regexOf_iff _).mpr hp
    exact ⟨⟨t, r, n, b.getD false, rg, l, p⟩, (checkKeys_eq_ok _).mpr hk,
      (typeOf_eq_ok _ _).mpr ⟨name, hname, hnamed⟩, hr, hn, ⟨b, hb, rfl⟩, hrg, hl, hp⟩

theorem declares_of_ofObject {spec : Object} {f : FieldSpec}
    (h : ¬ ((spec.get? "notBlank").isSome ∧ (spec.get? "not_blank").isSome))
    (hf : ofObject spec = .ok f) : spec.Declares f := by
  obtain ⟨-, ht, hr, hn, ⟨flag, hb, hfb⟩, hrg, hl, hp⟩ := (ofObject_eq_ok _ _).mp hf
  obtain ⟨hp, hprogram⟩ := (regexOf_eq_ok _ _).mp hp
  refine ⟨(typeOf_eq_ok _ _).mp ht, (flagOf_eq_ok _ _ _).mp hr, (flagOf_eq_ok _ _ _).mp hn, ?_,
    ((boundsOf_eq_ok _ _ _).mp hrg).1, ((lengthOf_eq_ok _ _).mp hl).1, hp, hprogram⟩
  rw [flagOf_pair_eq_ok] at hb
  rw [hfb]
  cases hk : spec.get? "notBlank" <;> cases ho : spec.get? "not_blank" <;> cases flag <;> simp_all

theorem ofJson_eq_ok (raw : Json) (f : FieldSpec) :
    ofJson raw = .ok f ↔ ∃ spec, raw.toObject? = some spec ∧ ofObject spec = .ok f := by
  unfold ofJson
  cases raw.toObject? <;> simp

theorem exists_ofJson_iff {raw : Json} (h : ¬ raw.HasBothSpellings) :
    (∃ f, ofJson raw = .ok f) ↔ raw.WellFormed := by
  simp only [ofJson_eq_ok]
  constructor
  · rintro ⟨f, spec, hs, hf⟩
    exact ⟨spec, hs, (exists_ofObject_iff fun hb => h ⟨spec, hs, hb⟩).mp ⟨f, hf⟩⟩
  · rintro ⟨spec, hs, hw⟩
    obtain ⟨f, hf⟩ := (exists_ofObject_iff fun hb => h ⟨spec, hs, hb⟩).mpr hw
    exact ⟨f, spec, hs, hf⟩

theorem declares_of_ofJson {raw : Json} {f : FieldSpec} (h : ¬ raw.HasBothSpellings)
    (hf : ofJson raw = .ok f) : raw.Declares f := by
  obtain ⟨spec, hs, hf⟩ := (ofJson_eq_ok raw f).mp hf
  exact ⟨spec, hs, declares_of_ofObject (fun hb => h ⟨spec, hs, hb⟩) hf⟩

end FieldSpec

/-! ## Schemas -/

namespace Template

theorem exists_fieldsOf_iff (members : List (String × Json)) :
    (∃ fields, fieldsOf members = .ok fields) ↔
      ∀ m ∈ members, ∃ f, FieldSpec.ofJson m.2 = .ok f := by
  induction members with
  | nil => simp [fieldsOf]
  | cons m rest ih =>
    rw [List.forall_mem_cons, ← ih, fieldsOf]
    cases FieldSpec.ofJson m.2 with
    | error v => simp
    | ok f => cases fieldsOf rest <;> simp

theorem forall₂_of_fieldsOf {members : List (String × Json)}
    {fields : { fields : List (String × FieldSpec) // fields.map Prod.fst = members.map Prod.fst }}
    (h : fieldsOf members = .ok fields) :
    List.Forall₂ (fun m f => FieldSpec.ofJson m.2 = .ok f.2) members fields.1 := by
  induction members with
  | nil =>
    cases h
    exact .nil
  | cons m rest ih =>
    rw [fieldsOf] at h
    cases hf : FieldSpec.ofJson m.2 with
    | error v => simp [hf] at h
    | ok f =>
      cases hr : fieldsOf rest with
      | error e => simp [hf, hr] at h
      | ok found =>
        simp only [hf, hr, Except.ok.injEq] at h
        rw [← h]
        exact .cons hf (ih hr)

theorem exists_compile_iff (schema : Object) :
    (∃ t, compile schema = .ok t) ↔
      ∀ m ∈ schema.members, ∃ f, FieldSpec.ofJson m.2 = .ok f := by
  rw [← exists_fieldsOf_iff, compile]
  cases fieldsOf schema.members <;> simp

theorem compile_spec {schema : Object} {t : Template} (h : compile schema = .ok t) :
    t.names = schema.keys ∧
      List.Forall₂ (fun m f => FieldSpec.ofJson m.2 = .ok f.2) schema.members t.fields := by
  unfold compile at h
  cases hf : fieldsOf schema.members with
  | error e => simp [hf] at h
  | ok fields =>
    simp only [hf, Except.ok.injEq] at h
    rw [← h]
    exact ⟨fields.2, forall₂_of_fieldsOf hf⟩

end Template

/-- A schema in which no field has both spellings of one flag is accepted exactly if it is
well-formed, and its template then declares what it declares. -/
theorem compile_accepts_exactly (schema : Object)
    (h : ∀ m ∈ schema.members, ¬ m.2.HasBothSpellings) :
    ((∃ t, Template.compile schema = .ok t) ↔ ∀ m ∈ schema.members, m.2.WellFormed) ∧
      ∀ t, Template.compile schema = .ok t →
        t.names = schema.keys ∧ t.names.Nodup ∧
          List.Forall₂ (fun m f => m.2.Declares f.2) schema.members t.fields := by
  constructor
  · rw [Template.exists_compile_iff]
    exact forall₂_congr fun m hm => FieldSpec.exists_ofJson_iff (h m hm)
  · intro t ht
    obtain ⟨hn, hf⟩ := Template.compile_spec ht
    refine ⟨hn, t.distinct, ((List.forall₂_and_left ..).mpr ⟨h, hf⟩).imp ?_⟩
    exact fun m f hm => FieldSpec.declares_of_ofJson hm.1 hm.2

/-- A schema with an array of numbers, which may be written with either flag but not with both. -/
theorem compile_accepts_exactly_array :
    let raw : Json := .object [("not_blank", .bool true), ("type", .string "float[]"),
      ("length", .array [.null, .number (.integer 9)])]
    let schema : Object := ⟨[("scores", raw)], by decide⟩
    (∀ m ∈ schema.members, ¬ m.2.HasBothSpellings) ∧
      ((∃ t, Template.compile schema = .ok t) ↔ ∀ m ∈ schema.members, m.2.WellFormed) ∧
      ∀ t, Template.compile schema = .ok t →
        t.names = schema.keys ∧ t.names.Nodup ∧
          List.Forall₂ (fun m f => m.2.Declares f.2) schema.members t.fields := by
  intro raw schema
  have h : ∀ m ∈ schema.members, ¬ m.2.HasBothSpellings := by
    intro m hm
    obtain rfl : m = ("scores", raw) := by simpa [schema] using hm
    rintro ⟨spec, hs, hb, -⟩
    cases hs
    revert hb
    decide
  exact ⟨h, compile_accepts_exactly schema h⟩

end PayloadCheck
