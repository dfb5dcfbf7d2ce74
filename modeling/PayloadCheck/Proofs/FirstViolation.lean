import Mathlib.Data.List.Nodup
import PayloadCheck.Proofs.Rules

/-!
# The first violation

Which error a refused schema gets.

* `Template.specsOf_append`: a schema is compiled member by member, so one part behind the other;
* `FieldSpec.code_of_perm`: the order of the members of a specification does not change the code;
* `refused_at_first_violation`: the error is that of the first field that is refused, whatever
  follows, and its code is that of the first rule that the specification of the field breaks.
-/

namespace PayloadCheck

/-- The error is of the first member that specifies no field, and is what is wrong with it. -/
def FirstRefused (members : List (String × Json)) (e : SchemaError) : Prop :=
  ∃ before name raw after v, members = before ++ (name, raw) :: after ∧
    (∀ m ∈ before, ∃ f, FieldSpec.ofJson m.2 = .ok f) ∧
    FieldSpec.ofJson raw = .error v ∧ e = .inField name v

/-- The members of one object behind those of another. -/
def Object.append (a b : Object) (h : a.keys.Disjoint b.keys) : Object where
  members := a.members ++ b.members
  distinct := by
    rw [List.map_append]
    exact a.distinct.append b.distinct h

/-! ## Compiling member by member -/

namespace Template

/-- What `fieldsOf` finds, without the fact that it has the names of the members. -/
def specsOf (members : List (String × Json)) : Except SchemaError (List (String × FieldSpec)) :=
  (fieldsOf members).map Subtype.val

theorem specsOf_cons (name : String) (raw : Json) (rest : List (String × Json)) :
    specsOf ((name, raw) :: rest) =
      match FieldSpec.ofJson raw with
      | .error v => .error (.inField name v)
      | .ok spec => (specsOf rest).map ((name, spec) :: ·) := by
  unfold specsOf
  rw [fieldsOf]
  cases FieldSpec.ofJson raw with
  | error v => rfl
  | ok spec => cases fieldsOf rest <;> rfl

theorem map_fields_compile (schema : Object) :
    (compile schema).map fields = specsOf schema.members := by
  unfold compile specsOf
  cases fieldsOf schema.members <;> rfl

theorem compile_eq_error_iff (schema : Object) (e : SchemaError) :
    compile schema = .error e ↔ specsOf schema.members = .error e := by
  rw [← map_fields_compile]
  cases compile schema <;> simp [Except.map]

theorem compile_eq_ok_iff (schema : Object) (fs : List (String × FieldSpec)) :
    (∃ t, compile schema = .ok t ∧ t.fields = fs) ↔ specsOf schema.members = .ok fs := by
  rw [← map_fields_compile]
  cases compile schema <;> simp [Except.map]

theorem specsOf_append (ms ns : List (String × Json)) :
    specsOf (ms ++ ns) = (specsOf ms).bind fun fs => (specsOf ns).map (fs ++ ·) := by
  induction ms with
  | nil =>
    change specsOf ns = (specsOf ns).map ([] ++ ·)
    cases specsOf ns <;> rfl
  | cons m rest ih =>
    obtain ⟨name, raw⟩ := m
    rw [List.cons_append, specsOf_cons, specsOf_cons, ih]
    cases FieldSpec.ofJson raw with
    | error v => rfl
    | ok spec => cases specsOf rest <;> cases specsOf ns <;> rfl

theorem exists_specsOf_iff (members : List (String × Json)) :
    (∃ fs, specsOf members = .ok fs) ↔ ∀ m ∈ members, ∃ f, FieldSpec.ofJson m.2 = .ok f := by
  rw [← exists_fieldsOf_iff, specsOf]
  cases fieldsOf members <;> simp [Except.map]

theorem firstRefused_of_specsOf {members : List (String × Json)} {e : SchemaError}
    (h : specsOf members = .error e) : FirstRefused members e := by
  induction members with
  | nil => cases h
  | cons m rest ih =>
    obtain ⟨name, raw⟩ := m
    rw [specsOf_cons] at h
    cases hr : FieldSpec.ofJson raw with
    | error v =>
      rw [hr] at h
      cases h
      exact ⟨[], name, raw, rest, v, rfl, nofun, hr, rfl⟩
    | ok spec =>
      have hrest : specsOf rest = .error e := by
        rw [hr] at h
        cases hs : specsOf rest with
        | error e' => simpa [hs, Except.map] using h
        | ok fs => simp [hs, Except.map] at h
      obtain ⟨before, name', raw', after, v, rfl, hok, hv, rfl⟩ := ih hrest
      refine ⟨(name, raw) :: before, name', raw', after, v, rfl, ?_, hv, rfl⟩
      exact List.forall_mem_cons.mpr ⟨⟨spec, hr⟩, hok⟩

theorem specsOf_of_firstRefused {members : List (String × Json)} {e : SchemaError}
    (h : FirstRefused members e) : specsOf members = .error e := by
  obtain ⟨before, name, raw, after, v, rfl, hok, hv, rfl⟩ := h
  obtain ⟨fs, hfs⟩ := (exists_specsOf_iff before).mpr hok
  rw [specsOf_append, hfs, specsOf_cons, hv]
  rfl

end Template

/-! ## The order within a specification -/

namespace FieldSpec

theorem ofObject_of_checkKeys {spec : Object} {v : Violation} (h : checkKeys spec = .error v) :
    ofObject spec = .error v := by
  unfold ofObject
  rw [h]
  rfl

/-- What is found under a key does not depend on the order, and which key is reported as unknown
does not show in the code. -/
theorem code_of_perm {spec₁ spec₂ : Object} (h : spec₁.members.Perm spec₂.members) :
    (ofObject spec₁).mapError Violation.code = (ofObject spec₂).mapError Violation.code := by
  have hget := Object.get?_eq_of_perm h
  have hmem (key : String) : key ∈ spec₁.keys ↔ key ∈ spec₂.keys := (h.map Prod.fst).mem_iff
  have hkeys : checkKeys spec₁ = .ok () ↔ checkKeys spec₂ = .ok () := by
    simp only [checkKeys_eq_ok, hmem]
  cases h₁ : checkKeys spec₁ with
  | error v =>
    cases h₂ : checkKeys spec₂ with
    | error w =>
      rw [ofObject_of_checkKeys h₁, ofObject_of_checkKeys h₂]
      exact congrArg Except.error ((code_of_checkKeys h₁).symm.trans (code_of_checkKeys h₂))
    | ok u =>
      rw [hkeys.mpr h₂] at h₁
      cases h₁
  | ok u =>
    have h₂ := hkeys.mp h₁
    have hflag (keys : List String) : flagOf spec₁ keys = flagOf spec₂ keys := by
      induction keys with
      | nil => rfl
      | cons key others ih => simp only [flagOf, hget, ih]
    unfold ofObject
    simp only [h₁, h₂, hflag, typeOf, lengthOf, boundsOf, regexOf, hget]

end FieldSpec

/-- An error is of the first field that is refused, and is the one on the specification of that
field, whatever comes behind it; its code is that of the first rule that the specification breaks,
whatever the order of its members. So of two parts, the error of the first comes before that of
the second, and where there is none the fields of both are taken. -/
theorem refused_at_first_violation :
    (∀ schema e, Template.compile schema = .error e ↔ FirstRefused schema.members e) ∧
    (∀ raw, ¬ raw.HasBothSpellings → Judges fieldRules raw (FieldSpec.ofJson raw)) ∧
    (∀ raw₁ raw₂ spec₁ spec₂, raw₁.toObject? = some spec₁ → raw₂.toObject? = some spec₂ →
      spec₁.members.Perm spec₂.members →
      (FieldSpec.ofJson raw₁).mapError Violation.code =
        (FieldSpec.ofJson raw₂).mapError Violation.code) ∧
    ∀ (a b : Object) (h : a.keys.Disjoint b.keys),
      (∀ e, Template.compile a = .error e → Template.compile (a.append b h) = .error e) ∧
      (∀ t e, Template.compile a = .ok t → Template.compile b = .error e →
        Template.compile (a.append b h) = .error e) ∧
      ∀ t u, Template.compile a = .ok t → Template.compile b = .ok u →
        ∃ w, Template.compile (a.append b h) = .ok w ∧ w.fields = t.fields ++ u.fields := by
  refine ⟨fun schema e => ?_, fun raw h => FieldSpec.judges_ofJson h, ?_, fun a b h => ?_⟩
  · rw [Template.compile_eq_error_iff]
    exact ⟨Template.firstRefused_of_specsOf, Template.specsOf_of_firstRefused⟩
  · intro raw₁ raw₂ spec₁ spec₂ h₁ h₂ hp
    simp only [FieldSpec.ofJson, h₁, h₂]
    exact FieldSpec.code_of_perm hp
  · have happend : Template.specsOf (a.append b h).members =
        (Template.specsOf a.members).bind fun fs => (Template.specsOf b.members).map (fs ++ ·) :=
      Template.specsOf_append a.members b.members
    refine ⟨fun e ha => ?_, fun t e ha hb => ?_, fun t u ha hb => ?_⟩
    · rw [Template.compile_eq_error_iff] at ha ⊢
      rw [happend, ha]
      rfl
    · rw [Template.compile_eq_error_iff] at hb ⊢
      rw [happend, (Template.compile_eq_ok_iff a t.fields).mp ⟨t, ha, rfl⟩, hb]
      rfl
    · rw [Template.compile_eq_ok_iff, happend,
        (Template.compile_eq_ok_iff a t.fields).mp ⟨t, ha, rfl⟩,
        (Template.compile_eq_ok_iff b u.fields).mp ⟨u, hb, rfl⟩]
      rfl

/-- A specification with two rules broken, of which the one on the flag comes first although it
stands behind the other, before and behind fields that are in order or not. -/
theorem refused_at_first_violation_flag :
    let sound : Json := .object [("type", .string "any")]
    let length : String × Json := ("length", .array [.bool true, .null])
    let required : String × Json := ("required", .number (.integer 1))
    let type : String × Json := ("type", .string "string")
    let broken : Json := .object [length, required, type]
    let turned : Json := .object [type, required, length]
    let a : Object := ⟨[("id", sound), ("name", broken)], by decide⟩
    let b : Object := ⟨[("note", .null)], by decide⟩
    let c : Object := ⟨[("size", sound)], by decide⟩
    let d : Object := ⟨[("id", sound)], by decide⟩
    let e : SchemaError := .inField "name" (.flagNotBoolean "required" .integer)
    Template.compile a = .error e ∧ FirstRefused a.members e ∧
      ¬ broken.HasBothSpellings ∧ Judges fieldRules broken (FieldSpec.ofJson broken) ∧
      (FieldSpec.ofJson broken).mapError Violation.code =
        (FieldSpec.ofJson turned).mapError Violation.code ∧
      ∃ (hab : a.keys.Disjoint b.keys) (hcb : c.keys.Disjoint b.keys)
        (hcd : c.keys.Disjoint d.keys),
        Template.compile (a.append b hab) = .error e ∧
        Template.compile (c.append b hcb) = .error (.inField "note" (.notAnObject .null)) ∧
        ∃ t u w, Template.compile c = .ok t ∧ Template.compile d = .ok u ∧
          Template.compile (c.append d hcd) = .ok w ∧ w.fields = t.fields ++ u.fields := by
  intro sound length required type broken turned a b c d e
  obtain ⟨hfirst, hrules, horder, hparts⟩ := refused_at_first_violation
  have ha : Template.compile a = .error e := rfl
  have hone : ¬ broken.HasBothSpellings := by
    rintro ⟨spec, hs, hb, -⟩
    cases hs
    revert hb
    decide
  have hperm : [length, required, type].Perm [type, required, length] :=
    (List.reverse_perm [length, required, type]).symm
  have hab : a.keys.Disjoint b.keys := by simp [a, b, Object.keys]
  have hcb : c.keys.Disjoint b.keys := by simp [c, b, Object.keys]
  have hcd : c.keys.Disjoint d.keys := by simp [c, d, Object.keys]
  refine ⟨ha, (hfirst a e).mp ha, hone, hrules broken hone, ?_, hab, hcb, hcd, ?_, ?_, ?_⟩
  · exact horder broken turned ⟨_, by decide⟩ ⟨_, by decide⟩ rfl rfl hperm
  · exact (hparts a b hab).1 e ha
  · exact (hparts c b hcb).2.1 _ _ rfl rfl
  · obtain ⟨w, hw, hf⟩ := (hparts c d hcd).2.2 _ _ rfl rfl
    exact ⟨_, _, w, rfl, rfl, hw, hf⟩

end PayloadCheck
