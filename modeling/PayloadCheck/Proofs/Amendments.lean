import PayloadCheck.Proofs.FirstViolation

/-!
# Amended schemas

A schema is amended by a constraint more on one of its fields, which may stand anywhere in the
specification of the field.

* `Object.get?_of_gains`: every other member is found as before;
* `FieldSpec.ofObject_of_gains_range`, `FieldSpec.ofObject_of_gains_length`: bounds that are gained
  alone decide whether a specification stays in order;
* `Template.compile_amended`: the amended schema is accepted if the specification is, and is refused
  with what is wrong with the specification else; the other fields stay as they are.
-/

namespace PayloadCheck

/-- The second object has one member more. -/
def Object.Gains (o : Object) (key : String) (v : Json) (o' : Object) : Prop :=
  o'.members.Perm ((key, v) :: o.members)

/-- The specification of the field has one member more, and the rest of the schema stays. -/
def Object.Amends (schema : Object) (name key : String) (v : Json) (schema' : Object) : Prop :=
  ∃ before after raw raw' spec spec',
    schema.members = before ++ (name, raw) :: after ∧
    schema'.members = before ++ (name, raw') :: after ∧
    raw.toObject? = some spec ∧ raw'.toObject? = some spec' ∧ spec.Gains key v spec'

/-- The second template specifies the field otherwise, and the other fields as the first does. -/
def Template.Amends (t : Template) (name : String) (f f' : FieldSpec) (t' : Template) : Prop :=
  ∃ before after, t.fields = before ++ (name, f) :: after ∧
    t'.fields = before ++ (name, f') :: after

/-! ## The members of a specification -/

namespace Object

variable {o o' : Object} {key : String} {v : Json}

theorem nodup_of_gains (h : o.Gains key v o') : (((key, v) :: o.members).map Prod.fst).Nodup :=
  (h.map Prod.fst).nodup_iff.mp o'.distinct

theorem get?_of_gains (h : o.Gains key v o') (k : String) :
    o'.get? k = if k = key then some v else o.get? k := by
  have hget : o'.get? = (Object.mk _ (nodup_of_gains h)).get? := get?_eq_of_perm h
  rw [hget]
  exact Json.lookup_cons key k v o.members

/-- A member that an object gains was not there before. -/
theorem get?_eq_none_of_gains (h : o.Gains key v o') : o.get? key = none := by
  have hkeys := nodup_of_gains h
  rw [List.map_cons, List.nodup_cons] at hkeys
  cases hget : o.get? key with
  | none => rfl
  | some w =>
    have hm := (o.get?_eq_some_iff key w).mp hget
    exact absurd (List.mem_map_of_mem hm) hkeys.1

theorem get?_of_gains_of_ne (h : o.Gains key v o') {k : String} (hk : k ≠ key) :
    o'.get? k = o.get? k := by
  rw [get?_of_gains h, if_neg hk]

/-- What was there before is there still. -/
theorem get?_of_gains_of_some (h : o.Gains key v o') {k : String} {w : Json}
    (hk : o.get? k = some w) : o'.get? k = some w := by
  have hne : k ≠ key := by
    rintro rfl
    rw [get?_eq_none_of_gains h] at hk
    cases hk
  rw [get?_of_gains_of_ne h hne, hk]

theorem mem_keys_of_gains (h : o.Gains key v o') (k : String) :
    k ∈ o'.keys ↔ k = key ∨ k ∈ o.keys := by
  have hkeys : o'.keys.Perm (key :: o.keys) := h.map Prod.fst
  rw [hkeys.mem_iff, List.mem_cons]

end Object

/-! ## Specifications with bounds more -/

namespace FieldSpec

theorem boundsOf_toJson {spec : Object} {key : String} {b : Bounds}
    (h : spec.get? key = some b.toJson) :
    boundsOf spec key =
      if b.isInverted then .error (.boundsInverted key b) else .ok (some b) := by
  have hend (e : Option Number) : boundOf key (Bounds.endToJson e) = .ok e :=
    (boundOf_eq_ok key _ e).mpr rfl
  simp only [boundsOf, h, Bounds.toJson, hend]
  rfl

theorem lengthOf_toJson {spec : Object} {b : Bounds} (h : spec.get? "length" = some b.toJson) :
    lengthOf spec =
      if b.isInverted then .error (.boundsInverted "length" b)
      else if b.hasNegative then .error (.negativeLength b) else .ok (some b) := by
  unfold lengthOf
  rw [boundsOf_toJson h]
  cases b.isInverted <;> rfl

variable {spec spec' : Object} {key : String} {v : Json} {f : FieldSpec}

/-- The rules before those on bounds are kept still. -/
theorem ofObject_of_gains (hg : spec.Gains key v spec') (hkey : key = "range" ∨ key = "length")
    (h : ofObject spec = .ok f) :
    ofObject spec' =
      (boundsOf spec' "range").bind fun range =>
        (lengthOf spec').map fun length => { f with range := range, length := length } := by
  obtain ⟨hk, ht, hr, hn, ⟨flag, hb, hf⟩, -, -, hp⟩ := (ofObject_eq_ok spec f).mp h
  have hsame (k : String) (hne : k ≠ "range") (hne' : k ≠ "length") :
      spec'.get? k = spec.get? k := by
    apply Object.get?_of_gains_of_ne hg
    rcases hkey with rfl | rfl
    · exact hne
    · exact hne'
  have hknown : key ∈ constraintKeys := by rcases hkey with rfl | rfl <;> decide
  have hk' : checkKeys spec' = .ok () := by
    rw [checkKeys_eq_ok] at hk ⊢
    intro k hm
    rcases (Object.mem_keys_of_gains hg k).mp hm with rfl | hm
    · exact hknown
    · exact hk k hm
  have ht' : typeOf spec' = .ok f.type := by
    rw [typeOf_eq_ok, hsame "type" (by decide) (by decide), ← typeOf_eq_ok]
    exact ht
  have hr' : flagOf spec' ["required"] = .ok f.required := by
    rw [flagOf_eq_ok, hsame "required" (by decide) (by decide), ← flagOf_eq_ok]
    exact hr
  have hn' : flagOf spec' ["nullable"] = .ok f.nullable := by
    rw [flagOf_eq_ok, hsame "nullable" (by decide) (by decide), ← flagOf_eq_ok]
    exact hn
  have hb' : flagOf spec' ["notBlank", "not_blank"] = .ok flag := by
    rw [flagOf_pair_eq_ok, hsame "notBlank" (by decide) (by decide),
      hsame "not_blank" (by decide) (by decide), ← flagOf_pair_eq_ok]
    exact hb
  have hp' : regexOf spec' = .ok f.regex := by
    rw [regexOf_eq_ok, hsame "regex" (by decide) (by decide), ← regexOf_eq_ok]
    exact hp
  simp only [ofObject, hk', ht', hr', hn', hb', hp', ← hf, bind, Except.bind]
  cases boundsOf spec' "range" with
  | error w => rfl
  | ok range => cases lengthOf spec' <;> rfl

theorem ofObject_of_gains_range {b : Bounds} (hg : spec.Gains "range" b.toJson spec')
    (h : ofObject spec = .ok f) :
    ofObject spec' =
      if b.isInverted then .error (.boundsInverted "range" b)
      else .ok { f with range := some b } := by
  obtain ⟨-, -, -, -, -, -, hl, -⟩ := (ofObject_eq_ok spec f).mp h
  have hl' : lengthOf spec' = .ok f.length := by
    rw [lengthOf_eq_ok, Object.get?_of_gains_of_ne hg (by decide), ← lengthOf_eq_ok]
    exact hl
  have hget : spec'.get? "range" = some b.toJson := by
    rw [Object.get?_of_gains hg, if_pos rfl]
  rw [ofObject_of_gains hg (.inl rfl) h, boundsOf_toJson hget, hl']
  cases b.isInverted <;> rfl

theorem ofObject_of_gains_length {b : Bounds} (hg : spec.Gains "length" b.toJson spec')
    (h : ofObject spec = .ok f) :
    ofObject spec' =
      if b.isInverted then .error (.boundsInverted "length" b)
      else if b.hasNegative then .error (.negativeLength b)
      else .ok { f with length := some b } := by
  obtain ⟨-, -, -, -, -, hr, -, -⟩ := (ofObject_eq_ok spec f).mp h
  have hr' : boundsOf spec' "range" = .ok f.range := by
    rw [boundsOf_eq_ok, Object.get?_of_gains_of_ne hg (by decide), ← boundsOf_eq_ok]
    exact hr
  have hget : spec'.get? "length" = some b.toJson := by
    rw [Object.get?_of_gains hg, if_pos rfl]
  rw [ofObject_of_gains hg (.inr rfl) h, hr', lengthOf_toJson hget]
  cases b.isInverted <;> cases b.hasNegative <;> rfl

end FieldSpec

/-! ## Schemas -/

namespace Template

/-- A schema is compiled part by part, and so is one with a field in the middle. -/
theorem specsOf_middle_eq_ok_iff (before after : List (String × Json)) (name : String) (raw : Json)
    (fs : List (String × FieldSpec)) :
    specsOf (before ++ (name, raw) :: after) = .ok fs ↔
      ∃ gs f hs, specsOf before = .ok gs ∧ FieldSpec.ofJson raw = .ok f ∧
        specsOf after = .ok hs ∧ fs = gs ++ (name, f) :: hs := by
  rw [specsOf_append, specsOf_cons]
  cases specsOf before with
  | error e => simp [Except.bind]
  | ok gs =>
    cases FieldSpec.ofJson raw with
    | error w => simp [Except.bind, Except.map]
    | ok f => cases specsOf after <;> simp [Except.bind, Except.map, eq_comm]

theorem specsOf_middle_eq_error {before after : List (String × Json)} {name : String} {raw : Json}
    {gs : List (String × FieldSpec)} {w : Violation} (hb : specsOf before = .ok gs)
    (hr : FieldSpec.ofJson raw = .error w) :
    specsOf (before ++ (name, raw) :: after) = .error (.inField name w) := by
  rw [specsOf_append, specsOf_cons, hb, hr]
  rfl

/-- What becomes of an accepted schema when a field gains a constraint is what becomes of the
specification of the field. -/
theorem compile_amended {schema schema' : Object} {name key : String} {v : Json} {t : Template}
    (h : schema.Amends name key v schema') (ht : compile schema = .ok t) :
    ∃ spec spec' f, spec.Gains key v spec' ∧ FieldSpec.ofObject spec = .ok f ∧
      (∀ w, FieldSpec.ofObject spec' = .error w → compile schema' = .error (.inField name w)) ∧
      ∀ f', FieldSpec.ofObject spec' = .ok f' →
        ∃ t', compile schema' = .ok t' ∧ t.Amends name f f' t' := by
  obtain ⟨before, after, raw, raw', spec, spec', hm, hm', hraw, hraw', hg⟩ := h
  have hspecs := (compile_eq_ok_iff schema t.fields).mp ⟨t, ht, rfl⟩
  rw [hm, specsOf_middle_eq_ok_iff] at hspecs
  obtain ⟨gs, f, hs, hb, hf, ha, hfields⟩ := hspecs
  have hspec : FieldSpec.ofObject spec = .ok f := by
    rw [← hf, FieldSpec.ofJson, hraw]
  have hamended : FieldSpec.ofJson raw' = FieldSpec.ofObject spec' := by
    rw [FieldSpec.ofJson, hraw']
  refine ⟨spec, spec', f, hg, hspec, fun w hw => ?_, fun f' hf' => ?_⟩
  · rw [compile_eq_error_iff, hm']
    exact specsOf_middle_eq_error hb (hamended.trans hw)
  · have hok : specsOf schema'.members = .ok (gs ++ (name, f') :: hs) := by
      rw [hm', specsOf_middle_eq_ok_iff]
      exact ⟨gs, f', hs, hb, hamended.trans hf', ha, rfl⟩
    obtain ⟨t', ht', hfields'⟩ := (compile_eq_ok_iff schema' _).mpr hok
    exact ⟨t', ht', gs, hs, hfields, hfields'⟩

end Template

end PayloadCheck
