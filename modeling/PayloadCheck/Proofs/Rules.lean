import PayloadCheck.Proofs.Acceptance

/-!
# The rules for specifications

`fieldRules` lists what a specification of a field can break, in the order in which it is looked
at; each rule is said of the members of an object, and knows nothing of the others. `Judges` says
of an answer that it accepts what breaks no rule, and refuses the rest with the code of the first
rule that is broken.

* `Judges.bind`: of two readers one behind the other, the second judges by the rules that follow;
* `FieldSpec.judges_ofJson`: so a specification is judged by the rules, unless it has both
  spellings of one flag.
-/

namespace PayloadCheck

/-! ## Rules -/

structure Rule (α : Type) where
  code : String
  Broken : α → Prop

/-- The first rule of a list that is broken has the code. -/
inductive FirstBroken {α : Type} (a : α) : List (Rule α) → String → Prop
  | here {rule : Rule α} {rest : List (Rule α)} {code : String} (h : rule.Broken a)
      (hc : rule.code = code) : FirstBroken a (rule :: rest) code
  | later {rule : Rule α} {rest : List (Rule α)} {code : String} (h : ¬ rule.Broken a)
      (hr : FirstBroken a rest code) : FirstBroken a (rule :: rest) code

/-- An answer on `a` that goes by the rules. -/
inductive Judges {α β : Type} (rules : List (Rule α)) (a : α) : Except Violation β → Prop
  | accepts (b : β) (h : ∀ rule ∈ rules, ¬ rule.Broken a) : Judges rules a (.ok b)
  | refuses (v : Violation) (h : FirstBroken a rules v.code) : Judges rules a (.error v)

namespace Rule

def knownKeys : Rule Object where
  code := "T010"
  Broken spec := ∃ key ∈ spec.keys, key ∉ constraintKeys

def typeDeclared : Rule Object where
  code := "T002"
  Broken spec := spec.get? "type" = none

def typeNamed : Rule Object where
  code := "T003"
  Broken spec := ∃ v, spec.get? "type" = some v ∧
    ∀ name t, v = .string name → ¬ FieldType.Named name t

/-- A flag with its spellings. -/
def flagBoolean (keys : List String) : Rule Object where
  code := "T008"
  Broken spec := ∃ key ∈ keys, ∃ v, spec.get? key = some v ∧ ∀ b, v ≠ .bool b

def boundsPaired (key : String) : Rule Object where
  code := "T004"
  Broken spec := ∃ v, spec.get? key = some v ∧ ∀ first second, v ≠ .array [first, second]

def boundsNumeric (key : String) : Rule Object where
  code := "T005"
  Broken spec := ∃ first second, spec.get? key = some (.array [first, second]) ∧
    ∃ v ∈ [first, second], ∀ n, v ≠ Bounds.endToJson n

def boundsOrdered (key : String) : Rule Object where
  code := "T006"
  Broken spec := ∃ b : Bounds, spec.get? key = some b.toJson ∧ ¬ b.Ordered

def lengthNonnegative : Rule Object where
  code := "T007"
  Broken spec := ∃ b : Bounds, spec.get? "length" = some b.toJson ∧ ¬ b.Nonnegative

def regexCompiles : Rule Object where
  code := "T009"
  Broken spec := ∃ v, spec.get? "regex" = some v ∧
    ∀ source, v = .string source → Pattern.compile? source = none

def isObject : Rule Json where
  code := "T001"
  Broken raw := raw.toObject? = none

/-- A rule for the members of an object. -/
def ofObject (rule : Rule Object) : Rule Json where
  code := rule.code
  Broken raw := ∃ spec, raw.toObject? = some spec ∧ rule.Broken spec

end Rule

def typeRules : List (Rule Object) := [.typeDeclared, .typeNamed]

def boundsRules (key : String) : List (Rule Object) :=
  [.boundsPaired key, .boundsNumeric key, .boundsOrdered key]

def lengthRules : List (Rule Object) := boundsRules "length" ++ [.lengthNonnegative]

/-- The rules for the members of a specification, one group behind the other. -/
def objectRules : List (Rule Object) :=
  [[Rule.knownKeys], typeRules, [.flagBoolean ["required"]], [.flagBoolean ["nullable"]],
    [.flagBoolean ["notBlank", "not_blank"]], boundsRules "range", lengthRules,
    [.regexCompiles]].flatten

def fieldRules : List (Rule Json) := .isObject :: objectRules.map .ofObject

/-! ## Judging by one list of rules behind another -/

section Judges

variable {α β γ : Type} {a : α} {rules others : List (Rule α)}

theorem FirstBroken.append_left {code : String} (h : FirstBroken a rules code)
    (others : List (Rule α)) : FirstBroken a (rules ++ others) code := by
  induction h with
  | here h hc => exact .here h hc
  | later h _ ih => exact .later h ih

theorem FirstBroken.append_right {code : String} (hn : ∀ rule ∈ rules, ¬ rule.Broken a)
    (h : FirstBroken a others code) : FirstBroken a (rules ++ others) code := by
  induction rules with
  | nil => exact h
  | cons rule rest ih =>
    rw [List.forall_mem_cons] at hn
    exact .later hn.1 (ih hn.2)

theorem Judges.bind {x : Except Violation β} {f : β → Except Violation γ}
    (hx : Judges rules a x) (hf : ∀ b, x = .ok b → Judges others a (f b)) :
    Judges (rules ++ others) a (x >>= f) := by
  cases hx with
  | refuses v h => exact .refuses v (h.append_left others)
  | accepts b h =>
    have hb := hf b rfl
    change Judges (rules ++ others) a (f b)
    generalize f b = y at hb ⊢
    cases hb with
    | refuses v hv => exact .refuses v (.append_right h hv)
    | accepts c hc =>
      apply Judges.accepts
      intro rule hr
      rcases List.mem_append.mp hr with hr | hr
      · exact h rule hr
      · exact hc rule hr

/-- A reader with one rule, which it accepts exactly what keeps to. -/
theorem judges_single {rule : Rule α} {x : Except Violation β}
    (hok : (∃ b, x = .ok b) ↔ ¬ rule.Broken a) (hcode : ∀ v, x = .error v → rule.code = v.code) :
    Judges [rule] a x := by
  cases x with
  | ok b => exact .accepts b (by simpa using hok.mp ⟨b, rfl⟩)
  | error v =>
    have hbroken : rule.Broken a := by
      by_contra hn
      obtain ⟨b, hb⟩ := hok.mpr hn
      cases hb
    exact .refuses v (.here hbroken (hcode v rfl))

end Judges

/-! ## Each reader judges by its rules -/

theorem Bounds.toJson_injective {b b' : Bounds} (h : b.toJson = b'.toJson) : b = b' := by
  obtain ⟨min, max⟩ := b
  obtain ⟨min', max'⟩ := b'
  cases min <;> cases max <;> cases min' <;> cases max' <;> simp_all [toJson, endToJson]

namespace FieldSpec

theorem code_of_checkKeys {spec : Object} {v : Violation} (h : checkKeys spec = .error v) :
    "T010" = v.code := by
  unfold checkKeys at h
  split at h <;> cases h
  rfl

theorem judges_checkKeys (spec : Object) : Judges [.knownKeys] spec (checkKeys spec) := by
  apply judges_single
  · have hok := checkKeys_eq_ok spec
    simp only [Rule.knownKeys, not_exists, not_and, not_not, ← hok]
    exact ⟨fun ⟨_, h⟩ => h, fun h => ⟨(), h⟩⟩
  · exact fun v h => code_of_checkKeys h

theorem judges_typeOf (spec : Object) : Judges typeRules spec (typeOf spec) := by
  have hdeclared {v : Json} (h : spec.get? "type" = some v) : ¬ Rule.typeDeclared.Broken spec := by
    intro (hn : spec.get? "type" = none)
    rw [h] at hn
    cases hn
  unfold typeOf typeRules
  split
  · rename_i h
    exact .refuses _ (.here h rfl)
  · rename_i name h
    have hname := FieldType.ofName?_eq_some_iff name
    split
    · rename_i t ht
      have hnamed : ¬ Rule.typeNamed.Broken spec := by
        rintro ⟨v, hv, hall⟩
        rw [h, Option.some.injEq] at hv
        exact hall name t hv.symm ((hname t).mp ht)
      exact .accepts t (by simp [hdeclared h, hnamed])
    · rename_i ht
      refine .refuses _ (.later (hdeclared h) (.here ⟨_, h, ?_⟩ rfl))
      rintro name' t he hnamed
      obtain rfl : name = name' := by simpa using he
      rw [(hname t).mpr hnamed] at ht
      cases ht
  · rename_i v hn h
    refine .refuses _ (.later (hdeclared h) (.here ⟨v, h, ?_⟩ rfl))
    rintro name t rfl
    exact absurd rfl (hn name)

theorem code_of_flagOf {spec : Object} {keys : List String} {v : Violation}
    (h : flagOf spec keys = .error v) : "T008" = v.code := by
  induction keys with
  | nil => cases h
  | cons key others ih =>
    unfold flagOf at h
    split at h
    · exact ih h
    · cases h
    · cases h
      rfl

theorem judges_flagOf (spec : Object) (key : String) :
    Judges [.flagBoolean [key]] spec (flagOf spec [key]) := by
  apply judges_single
  · rw [exists_flagOf_iff]
    simp only [Rule.flagBoolean, List.mem_singleton, exists_eq_left, not_exists, not_and,
      not_forall, not_not]
  · exact fun v h => code_of_flagOf h

/-- Where one spelling at most is there, no rule is broken under the other. -/
theorem judges_flagOf_pair {spec : Object} {key other : String}
    (h : ¬ ((spec.get? key).isSome ∧ (spec.get? other).isSome)) :
    Judges [.flagBoolean [key, other]] spec (flagOf spec [key, other]) := by
  apply judges_single
  · rw [exists_flagOf_pair_iff h]
    simp only [Rule.flagBoolean, List.exists_mem_cons_iff, List.not_mem_nil, false_and,
      exists_false, or_false, not_or, not_exists, not_and, not_forall, not_not]
  · exact fun v h => code_of_flagOf h

theorem boundOf_eq_error {key : String} {v : Json} {w : Violation}
    (h : boundOf key v = .error w) : "T005" = w.code ∧ ∀ n, v ≠ Bounds.endToJson n := by
  constructor
  · unfold boundOf at h
    split at h <;> cases h
    rfl
  · rintro n rfl
    rw [(boundOf_eq_ok key _ n).mpr rfl] at h
    cases h

theorem judges_boundsOf_pair {spec : Object} {key : String} {first second : Json}
    (h : spec.get? key = some (.array [first, second])) :
    Judges (boundsRules key) spec (boundsOf spec key) := by
  have hpaired : ¬ (Rule.boundsPaired key).Broken spec := by
    rintro ⟨v, hv, hall⟩
    rw [h, Option.some.injEq] at hv
    exact hall first second hv.symm
  simp only [boundsOf, h, boundsRules]
  cases h₁ : boundOf key first with
  | error w =>
    obtain ⟨hc, hne⟩ := boundOf_eq_error h₁
    exact .refuses w (.later hpaired (.here ⟨first, second, h, first, by simp, hne⟩ hc))
  | ok min =>
    cases h₂ : boundOf key second with
    | error w =>
      obtain ⟨hc, hne⟩ := boundOf_eq_error h₂
      exact .refuses w (.later hpaired (.here ⟨first, second, h, second, by simp, hne⟩ hc))
    | ok max =>
      obtain rfl := (boundOf_eq_ok key first min).mp h₁
      obtain rfl := (boundOf_eq_ok key second max).mp h₂
      have hnumeric : ¬ (Rule.boundsNumeric key).Broken spec := by
        rintro ⟨first', second', hv, v, hm, hall⟩
        rw [h] at hv
        cases hv
        simp only [List.mem_cons, List.not_mem_nil, or_false] at hm
        rcases hm with rfl | rfl
        · exact hall min rfl
        · exact hall max rfl
      cases hi : (Bounds.mk min max).isInverted with
      | true =>
        have hnot : ¬ (Bounds.mk min max).Ordered := by
          intro ho
          rw [(Bounds.isInverted_eq_false_iff _).mpr ho] at hi
          cases hi
        simp only [bind, Except.bind, hi, ↓reduceIte]
        exact .refuses _ (.later hpaired (.later hnumeric (.here ⟨⟨min, max⟩, h, hnot⟩ rfl)))
      | false =>
        have hordered : ¬ (Rule.boundsOrdered key).Broken spec := by
          rintro ⟨b, hb, hn⟩
          rw [h, Option.some.injEq] at hb
          obtain rfl : ⟨min, max⟩ = b := Bounds.toJson_injective hb
          exact hn ((Bounds.isInverted_eq_false_iff _).mp hi)
        simp only [bind, Except.bind, hi, Bool.false_eq_true, ↓reduceIte]
        exact .accepts _ (by simp [hpaired, hnumeric, hordered])

theorem judges_boundsOf (spec : Object) (key : String) :
    Judges (boundsRules key) spec (boundsOf spec key) := by
  by_cases hp : ∃ first second, spec.get? key = some (.array [first, second])
  · obtain ⟨first, second, h⟩ := hp
    exact judges_boundsOf_pair h
  · unfold boundsOf
    split
    · rename_i h
      apply Judges.accepts
      simp [boundsRules, Rule.boundsPaired, Rule.boundsNumeric, Rule.boundsOrdered, h]
    · rename_i first second h
      exact absurd ⟨first, second, h⟩ hp
    · rename_i v hn h
      refine .refuses _ (.here ⟨v, h, ?_⟩ rfl)
      rintro first second rfl
      exact hp ⟨first, second, h⟩

theorem judges_lengthOf (spec : Object) : Judges lengthRules spec (lengthOf spec) := by
  apply (judges_boundsOf spec "length").bind
  intro b hb
  have hget := ((boundsOf_eq_ok spec "length" b).mp hb).1
  cases b with
  | none => exact .accepts none (by simp [Rule.lengthNonnegative, hget])
  | some b =>
    have hneg := b.hasNegative_eq_false_iff
    cases hn : b.hasNegative with
    | true =>
      have hbroken : ¬ b.Nonnegative := by simp [← hneg, hn]
      simp only [hn, ↓reduceIte]
      exact .refuses _ (.here ⟨b, hget, hbroken⟩ rfl)
    | false =>
      have hkept : ¬ Rule.lengthNonnegative.Broken spec := by
        rintro ⟨b', hb', hnot⟩
        rw [hget, Option.map_some, Option.some.injEq] at hb'
        obtain rfl := Bounds.toJson_injective hb'
        exact hnot (hneg.mp hn)
      simp only [hn, Bool.false_eq_true, ↓reduceIte]
      exact .accepts _ (by simpa using hkept)

theorem judges_regexOf (spec : Object) : Judges [.regexCompiles] spec (regexOf spec) := by
  apply judges_single
  · rw [exists_regexOf_iff]
    simp only [Rule.regexCompiles, not_exists, not_and, not_forall]
    refine forall₂_congr fun v _ => exists_congr fun source => ?_
    rw [exists_prop, Option.isSome_iff_ne_none]
  · intro v h
    unfold regexOf at h
    split at h
    · cases h
    · split at h
      · cases h
      · cases h
        rfl
    · cases h
      rfl

/-! ## Specifications -/

/-- The readers come in the order of the rules. -/
theorem judges_ofObject {spec : Object}
    (h : ¬ ((spec.get? "notBlank").isSome ∧ (spec.get? "not_blank").isSome)) :
    Judges objectRules spec (ofObject spec) := by
  unfold ofObject objectRules
  simp only [List.flatten_cons]
  apply (judges_checkKeys spec).bind
  intro _ _
  apply (judges_typeOf spec).bind
  intro type _
  apply (judges_flagOf spec "required").bind
  intro required _
  apply (judges_flagOf spec "nullable").bind
  intro nullable _
  apply (judges_flagOf_pair h).bind
  intro notBlank _
  apply (judges_boundsOf spec "range").bind
  intro range _
  apply (judges_lengthOf spec).bind
  intro length _
  apply (judges_regexOf spec).bind
  intro regex _
  exact .accepts _ nofun

theorem FirstBroken.ofObject {raw : Json} {spec : Object} (hs : raw.toObject? = some spec)
    {rules : List (Rule Object)} {code : String} (h : FirstBroken spec rules code) :
    FirstBroken raw (rules.map .ofObject) code := by
  induction h with
  | here h hc => exact .here ⟨spec, hs, h⟩ hc
  | later h _ ih =>
    refine .later ?_ ih
    rintro ⟨spec', hs', hb⟩
    rw [hs, Option.some.injEq] at hs'
    exact h (hs' ▸ hb)

theorem judges_ofJson {raw : Json} (h : ¬ raw.HasBothSpellings) :
    Judges fieldRules raw (ofJson raw) := by
  unfold ofJson fieldRules
  cases hs : raw.toObject? with
  | none => exact .refuses _ (.here hs rfl)
  | some spec =>
    have hobject : ¬ Rule.isObject.Broken raw := by
      intro (hn : raw.toObject? = none)
      rw [hs] at hn
      cases hn
    have hj := judges_ofObject fun hb => h ⟨spec, hs, hb⟩
    dsimp only
    cases ho : ofObject spec with
    | error v =>
      rw [ho] at hj
      cases hj with
      | refuses _ hv => exact .refuses v (.later hobject (FirstBroken.ofObject hs hv))
    | ok f =>
      rw [ho] at hj
      cases hj with
      | accepts _ hf =>
        apply Judges.accepts
        rw [List.forall_mem_cons]
        refine ⟨hobject, ?_⟩
        intro rule hr
        obtain ⟨rule, hm, rfl⟩ := List.mem_map.mp hr
        rintro ⟨spec', hs', hb⟩
        rw [hs, Option.some.injEq] at hs'
        exact hf rule hm (hs' ▸ hb)

end FieldSpec

end PayloadCheck
