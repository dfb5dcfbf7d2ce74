import PayloadCheck.Proofs.Acceptance

/-!
# Flags of accepted schemas

A flag with two spellings is read under the first that is there. So in an accepted schema each flag
is a boolean under each of its keys, unless the key is shadowed by another spelling, and then
anything may stand there (`flags_boolean_unless_shadowed`).
-/

namespace PayloadCheck

/-- The key is the second spelling of a flag that is there under its first, as a boolean. -/
def Object.Shadows (spec : Object) (key : String) : Prop :=
  key = "not_blank" ∧ ∃ b, spec.get? "notBlank" = some (.bool b)

namespace FieldSpec

/-! ## What a rule looks at -/

theorem boolean_of_flagOf {spec : Object} {key : String} {flag : Option Bool}
    (h : flagOf spec [key] = .ok flag) {v : Json} (hv : spec.get? key = some v) :
    ∃ b, v = .bool b :=
  (exists_flagOf_iff spec key).mp ⟨flag, h⟩ v hv

/-- Of two spellings the rule looks at the first that is there. -/
theorem boolean_of_flagOf_pair {spec : Object} {key other : String} {flag : Option Bool}
    (h : flagOf spec [key, other] = .ok flag) {v : Json}
    (hv : (spec.get? key).or (spec.get? other) = some v) : ∃ b, v = .bool b := by
  rw [flagOf_pair_eq_ok, hv] at h
  obtain ⟨b, -, hb⟩ := Option.map_eq_some_iff.mp h.symm
  exact ⟨b, hb.symm⟩

theorem flags_of_ofObject {spec : Object} {f : FieldSpec} (h : ofObject spec = .ok f)
    {key : String} (hk : key ∈ flagKeys) {v : Json} (hv : spec.get? key = some v) :
    (∃ b, v = .bool b) ∨ spec.Shadows key := by
  obtain ⟨-, -, hr, hn, ⟨flag, hb, -⟩, -⟩ := (ofObject_eq_ok spec f).mp h
  simp only [flagKeys, List.mem_cons, List.not_mem_nil, or_false] at hk
  rcases hk with rfl | rfl | rfl | rfl
  · exact .inl (boolean_of_flagOf hr hv)
  · exact .inl (boolean_of_flagOf hn hv)
  · exact .inl (boolean_of_flagOf_pair hb (by rw [hv, Option.some_or]))
  · cases hf : spec.get? "notBlank" with
    | none => exact .inl (boolean_of_flagOf_pair hb (by rw [hf, hv, Option.none_or]))
    | some w =>
      obtain ⟨b, rfl⟩ := boolean_of_flagOf_pair hb (by rw [hf, Option.some_or])
      exact .inr ⟨rfl, b, hf⟩

/-! ## What no rule looks at -/

theorem checkKeys_insert (spec : Object) {key : String} (hk : key ∈ constraintKeys) (v : Json) :
    checkKeys (spec.insert key v) = checkKeys spec := by
  have hn := (ofKey?_isNone key).mpr hk
  have hfind : ((spec.insert key v).keys.find? fun k => (ConstraintKind.ofKey? k).isNone) =
      spec.keys.find? fun k => (ConstraintKind.ofKey? k).isNone := by
    rw [Object.keys_insert]
    split
    · rfl
    · simp [List.find?_append, hn]
  rw [checkKeys, hfind]
  rfl

/-- Where a flag is there under its first spelling, the second may hold anything. -/
theorem ofObject_insert_shadowed {spec : Object} {b : Bool}
    (h : spec.get? "notBlank" = some (.bool b)) (v : Json) :
    ofObject (spec.insert "not_blank" v) = ofObject spec := by
  have hne {key : String} (hk : key ≠ "not_blank") :
      (spec.insert "not_blank" v).get? key = spec.get? key := by
    rw [Object.get?_insert, if_neg hk]
  have hb : (spec.insert "not_blank" v).get? "notBlank" = some (.bool b) := by
    rw [hne (by decide), h]
  have ht := hne (by decide : "type" ≠ "not_blank")
  have hr := hne (by decide : "required" ≠ "not_blank")
  have hn := hne (by decide : "nullable" ≠ "not_blank")
  have hrg := hne (by decide : "range" ≠ "not_blank")
  have hl := hne (by decide : "length" ≠ "not_blank")
  have hp := hne (by decide : "regex" ≠ "not_blank")
  unfold ofObject
  rw [checkKeys_insert spec (by decide)]
  simp only [typeOf, flagOf, boundsOf, lengthOf, regexOf, hb, h, ht, hr, hn, hrg, hl, hp]

end FieldSpec

/-- In an accepted schema each flag is a boolean under each key that is not shadowed, and what a
shadowed key holds changes nothing. -/
theorem flags_boolean_unless_shadowed (schema : Object) (t : Template)
    (ht : Template.compile schema = .ok t) :
    ∀ m ∈ schema.members, ∃ spec, m.2.toObject? = some spec ∧
      (∀ key ∈ flagKeys, ∀ v, spec.get? key = some v → (∃ b, v = .bool b) ∨ spec.Shadows key) ∧
      ∀ key, spec.Shadows key → ∀ v,
        FieldSpec.ofObject (spec.insert key v) = FieldSpec.ofObject spec := by
  intro m hm
  obtain ⟨f, hf⟩ := (Template.exists_compile_iff schema).mp ⟨t, ht⟩ m hm
  obtain ⟨spec, hs, hf⟩ := (FieldSpec.ofJson_eq_ok m.2 f).mp hf
  refine ⟨spec, hs, fun key hk v hv => FieldSpec.flags_of_ofObject hf hk hv, ?_⟩
  rintro key ⟨rfl, b, hb⟩ v
  exact FieldSpec.ofObject_insert_shadowed hb v

/-- A schema with both spellings of one flag: the second is no boolean, and the schema is
accepted. -/
theorem shadowed_flag_accepted :
    let spec : Object := ⟨[("type", .string "string"), ("notBlank", .bool true),
      ("not_blank", .number (.integer 5))], by decide⟩
    let schema : Object := ⟨[("title", spec.toJson)], by decide⟩
    (∃ t, Template.compile schema = .ok t) ∧
      ∃ key ∈ flagKeys, ∃ v, spec.get? key = some v ∧ ∀ b, v ≠ .bool b :=
  ⟨⟨_, rfl⟩, "not_blank", by decide, _, rfl, nofun⟩

/-- The schema with both spellings, of which the first is a boolean. -/
theorem flags_boolean_unless_shadowed_both :
    let both : Object := ⟨[("type", .string "string"), ("notBlank", .bool true),
      ("not_blank", .number (.integer 5))], by decide⟩
    let schema : Object := ⟨[("title", both.toJson)], by decide⟩
    both.Shadows "not_blank" ∧ ∃ t, Template.compile schema = .ok t ∧
      ∀ m ∈ schema.members, ∃ spec, m.2.toObject? = some spec ∧
        (∀ key ∈ flagKeys, ∀ v, spec.get? key = some v → (∃ b, v = .bool b) ∨ spec.Shadows key) ∧
        ∀ key, spec.Shadows key → ∀ v,
          FieldSpec.ofObject (spec.insert key v) = FieldSpec.ofObject spec :=
  ⟨⟨rfl, true, rfl⟩, _, rfl, flags_boolean_unless_shadowed _ _ rfl⟩

end PayloadCheck
