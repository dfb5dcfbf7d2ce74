import PayloadCheck.Proofs.Amendments
import PayloadCheck.Proofs.Conformance
import PayloadCheck.Proofs.Rearrangement

/-!
# Tightening

A constraint more, or a lower limit on the number of keys, never makes a payload valid. This is not
obvious check by check, as a check may also decide a field and so keep later ones from failing; but
where a null or an absence is decided by a constraint that was not there before, it is decided to
be invalid.

* `FieldSpec.accepts_of_stricter`: a stricter specification accepts no more;
* `FieldSpec.stricter_of_gains`: a constraint more makes a specification stricter;
* `tightening_monotone`: so payloads that are valid after a schema or a limit has been tightened
  were valid before.
-/

namespace PayloadCheck

/-- A constraint that tightens a specification, as the member that declares it. -/
inductive Tightening : String → Json → Prop
  | required : Tightening "required" (.bool true)
  | nullable : Tightening "nullable" (.bool false)
  | notBlank : Tightening "notBlank" (.bool true)
  | not_blank : Tightening "not_blank" (.bool true)
  | range (v : Json) : Tightening "range" v
  | length (v : Json) : Tightening "length" v
  | regex (v : Json) : Tightening "regex" v

/-- Of flags the key settles the value. -/
theorem Tightening.eq_true_of_notBlank {key : String} {v : Json} (h : Tightening key v)
    (hk : "notBlank" = key) : v = .bool true := by
  cases h with
  | notBlank => rfl
  | _ => simp at hk

theorem Tightening.eq_false_of_nullable {key : String} {v : Json} (h : Tightening key v)
    (hk : "nullable" = key) : v = .bool false := by
  cases h with
  | nullable => rfl
  | _ => simp at hk

/-- The second specification says what the first does, and may refuse null and more besides. -/
structure FieldSpec.Stricter (f f' : FieldSpec) : Prop where
  type : f'.type = f.type
  required : f.required = some true → f'.required = some true
  nullable : f'.nullable = f.nullable ∨ f'.nullable = some false
  notBlank : f.notBlank = true → f'.notBlank = true
  range : ∀ b ∈ f.range, b ∈ f'.range
  length : ∀ b ∈ f.length, b ∈ f'.length
  regex : ∀ p ∈ f.regex, p ∈ f'.regex

namespace FieldSpec

/-! ## What is accepted -/

/-- A null that is provided for is let through; all other values are looked at. -/
theorem accepts_some_iff (f : FieldSpec) (v : Json) :
    f.Accepts (some v) ↔ v = .null ∧ f.nullable = some true ∨
      (v = .null → f.nullable = none) ∧ (f.notBlank = true → ¬ v.Blank) ∧
        (f.type = .scalar .any ∨ f.Admits v) := by
  unfold Accepts
  cases v with
  | null => cases f.nullable <;> simp
  | _ => simp

variable {f f' : FieldSpec}

theorem admits_of_stricter (h : f.Stricter f') {v : Json} (ha : f'.Admits v) : f.Admits v where
  type := h.type ▸ ha.type
  range b hb := ha.range b (h.range b hb)
  length b hb := ha.length b (h.length b hb)
  regex p hp := ha.regex p (h.regex p hp)

theorem accepts_of_stricter (h : f.Stricter f') {value : Option Json} (ha : f'.Accepts value) :
    f.Accepts value := by
  cases value with
  | none => exact mt h.required ha
  | some v =>
    rw [accepts_some_iff] at ha ⊢
    rcases ha with ⟨hv, hn⟩ | ⟨hn, hblank, hadmits⟩
    · rcases h.nullable with he | he
      · exact .inl ⟨hv, he.symm.trans hn⟩
      · rw [he] at hn
        cases hn
    · refine .inr ⟨fun hv => ?_, fun hb => hblank (h.notBlank hb), ?_⟩
      · rcases h.nullable with he | he
        · exact he.symm.trans (hn hv)
        · rw [he] at hn
          cases hn hv
      · exact hadmits.imp h.type.symm.trans (admits_of_stricter h)

/-! ## What is stricter -/

/-- A bound that has been read from a member is read from it again. -/
theorem mem_of_written {α : Type} {write : α → Json} (hw : Function.Injective write)
    {spec spec' : Object} {key : String} {declared declared' : Option α}
    (h : spec.get? key = declared.map write) (h' : spec'.get? key = declared'.map write)
    (hkept : ∀ w, spec.get? key = some w → spec'.get? key = some w) :
    ∀ a ∈ declared, a ∈ declared' := by
  rintro a rfl
  have hget := hkept (write a) h
  rw [h'] at hget
  obtain ⟨a', ha', he⟩ := Option.map_eq_some_iff.mp hget
  rw [← hw he]
  exact ha'

theorem notBlank_iff {spec : Object} (h : ofObject spec = .ok f) :
    f.notBlank = true ↔ (spec.get? "notBlank").or (spec.get? "not_blank") = some (.bool true) := by
  have hasks := Check.mem_ofSpec_iff_asks h .notBlank
  rw [Check.mem_ofSpec_iff] at hasks
  refine Iff.trans ?_ hasks
  cases hb : f.notBlank <;> simp [Check.kind, Check.ofConstraint?, hb]

section Gains

variable {spec spec' : Object} {key : String} {v : Json}

/-- The first spelling, where it is the one that is gained, is gained as true. -/
theorem notBlank_of_gains (hg : spec.Gains key v spec') (hv : Tightening key v)
    (h : ofObject spec = .ok f) (h' : ofObject spec' = .ok f') (hf : f.notBlank = true) :
    f'.notBlank = true := by
  rw [notBlank_iff h] at hf
  rw [notBlank_iff h']
  cases hfirst : spec.get? "notBlank" with
  | some w =>
    rw [hfirst, Option.some_or] at hf
    rw [Object.get?_of_gains_of_some hg hfirst, Option.some_or, hf]
  | none =>
    rw [hfirst, Option.none_or] at hf
    rw [Object.get?_of_gains_of_some hg hf, Object.get?_of_gains hg]
    by_cases hk : "notBlank" = key
    · rw [if_pos hk, Option.some_or, hv.eq_true_of_notBlank hk]
    · rw [if_neg hk, hfirst, Option.none_or]

theorem nullable_of_gains (hg : spec.Gains key v spec') (hv : Tightening key v)
    (h : flagOf spec ["nullable"] = .ok f.nullable)
    (h' : flagOf spec' ["nullable"] = .ok f'.nullable) :
    f'.nullable = f.nullable ∨ f'.nullable = some false := by
  have hbool : Function.Injective Json.bool := fun _ _ => Json.bool.inj
  rw [flagOf_eq_ok] at h h'
  by_cases hk : "nullable" = key
  · rw [Object.get?_of_gains hg, if_pos hk, hv.eq_false_of_nullable hk] at h'
    exact .inr (Option.map_injective hbool h'.symm)
  · rw [Object.get?_of_gains_of_ne hg hk, h] at h'
    exact .inl (Option.map_injective hbool h'.symm)

theorem stricter_of_gains (hg : spec.Gains key v spec') (hv : Tightening key v)
    (h : ofObject spec = .ok f) (h' : ofObject spec' = .ok f') : f.Stricter f' := by
  have hblank := notBlank_of_gains hg hv h h'
  obtain ⟨-, ht, hr, hn, -, hrange, hlength, hregex⟩ := (ofObject_eq_ok spec f).mp h
  obtain ⟨-, ht', hr', hn', -, hrange', hlength', hregex'⟩ := (ofObject_eq_ok spec' f').mp h'
  have hkept (k : String) (w : Json) (hk : spec.get? k = some w) : spec'.get? k = some w :=
    Object.get?_of_gains_of_some hg hk
  have hbool : Function.Injective Json.bool := fun _ _ => Json.bool.inj
  have hbounds : Function.Injective Bounds.toJson := fun _ _ => Bounds.toJson_injective
  rw [flagOf_eq_ok] at hr hr'
  rw [boundsOf_eq_ok] at hrange hrange'
  rw [lengthOf_eq_ok] at hlength hlength'
  exact {
    type := by
      obtain ⟨name, hname, hnamed⟩ := (typeOf_eq_ok spec f.type).mp ht
      have hread := (typeOf_eq_ok spec' f.type).mpr ⟨name, hkept "type" _ hname, hnamed⟩
      exact Except.ok.inj (ht'.symm.trans hread)
    required := mem_of_written hbool hr hr' (hkept "required") true
    nullable := nullable_of_gains hg hv hn hn'
    notBlank := hblank
    range := mem_of_written hbounds hrange.1 hrange'.1 (hkept "range")
    length := mem_of_written hbounds hlength.1 hlength'.1 (hkept "length")
    regex := by
      rintro p hp
      have hread : regexOf spec' = .ok (some p) := by
        rw [regexOf_eq_ok, hp] at hregex
        exact (regexOf_eq_ok spec' (some p)).mpr ⟨hkept "regex" _ hregex.1, hregex.2⟩
      exact Except.ok.inj (hregex'.symm.trans hread) }

end Gains

end FieldSpec

/-! ## Reports -/

namespace Template

/-- A report is valid if the keys are not too many and each field accepts what it holds. -/
theorem isValid_report_iff_accepts (t : Template) (limit : KeyLimit) (payload : Object) :
    (t.report limit payload).isValid = true ↔
      (∀ n ∈ limit.resolve t.size, payload.size ≤ n) ∧
        ∀ f ∈ t.fields, f.2.Accepts (payload.get? f.1) := by
  have hall : (t.report limit payload).isValid = true ↔
      AllValid (t.report limit payload).verdicts := t.isValid_report_iff limit payload
  rw [hall, verdicts_report, allValid_append, allValid_option, allValid_flatMap]
  simp only [KeyLimiter.verdict_isValid, FieldSpec.allValid_block]

theorem isValid_of_amends {t t' : Template} {name : String} {f f' : FieldSpec}
    (h : t.Amends name f f' t') (hf : f.Stricter f') {limit : KeyLimit} {payload : Object}
    (hv : (t'.report limit payload).isValid = true) : (t.report limit payload).isValid = true := by
  obtain ⟨before, after, hfields, hfields'⟩ := h
  have hsize : t'.size = t.size := by simp [size, hfields, hfields']
  rw [isValid_report_iff_accepts, hsize, hfields', List.forall_mem_append,
    List.forall_mem_cons] at hv
  rw [isValid_report_iff_accepts, hfields, List.forall_mem_append, List.forall_mem_cons]
  obtain ⟨hkeys, hbefore, hname, hafter⟩ := hv
  exact ⟨hkeys, hbefore, FieldSpec.accepts_of_stricter hf hname, hafter⟩

/-- A payload that is valid under a limit is so under any that allows as many keys. -/
theorem isValid_of_limit {t : Template} {limit limit' : KeyLimit} {payload : Object}
    (h : ∀ n ∈ limit.resolve t.size, ∃ m ∈ limit'.resolve t.size, m ≤ n)
    (hv : (t.report limit' payload).isValid = true) : (t.report limit payload).isValid = true := by
  rw [isValid_report_iff_accepts] at hv ⊢
  refine ⟨fun n hn => ?_, hv.2⟩
  obtain ⟨m, hm, hmn⟩ := h n hn
  exact Nat.le_trans (hv.1 m hm) hmn

end Template

/-- A payload that is valid under a schema with a constraint more is valid without it, and one that
is valid under a lower limit on the number of keys, or under any limit, is so under a higher one or
none. -/
theorem tightening_monotone :
    (∀ schema schema' t t' name key v, Tightening key v → schema.Amends name key v schema' →
      Template.compile schema = .ok t → Template.compile schema' = .ok t' →
      ∀ limit payload, (t'.report limit payload).isValid = true →
        (t.report limit payload).isValid = true) ∧
    (∀ (t : Template) (m n : Nat) (payload : Object), m ≤ n →
      (t.report (.max m) payload).isValid = true → (t.report (.max n) payload).isValid = true) ∧
    ∀ (t : Template) (limit : KeyLimit) (payload : Object),
      (t.report limit payload).isValid = true → (t.report .disabled payload).isValid = true := by
  refine ⟨?_, fun t m n payload hmn hv => ?_, fun t limit payload hv => ?_⟩
  · intro schema schema' t t' name key v htight h ht ht' limit payload hv
    obtain ⟨spec, spec', f, hg, hf, herror, hok⟩ := Template.compile_amended h ht
    cases hf' : FieldSpec.ofObject spec' with
    | error w =>
      rw [herror w hf'] at ht'
      cases ht'
    | ok f' =>
      obtain ⟨t'', ht'', ham⟩ := hok f' hf'
      obtain rfl : t' = t'' := Except.ok.inj (ht'.symm.trans ht'')
      exact Template.isValid_of_amends ham (FieldSpec.stricter_of_gains hg htight hf hf') hv
  · refine Template.isValid_of_limit (fun k hk => ⟨m, rfl, ?_⟩) hv
    obtain rfl : n = k := Option.some.inj hk
    exact hmn
  · exact Template.isValid_of_limit nofun hv

/-- A field that holds anything, and then anything but null, and a payload with another key. -/
theorem tightening_monotone_nullable :
    let type : String × Json := ("type", .string "any")
    let nullable : String × Json := ("nullable", .bool false)
    let id : Json := .object [("type", .string "integer"), ("required", .bool true)]
    let schema : Object := ⟨[("id", id), ("note", .object [type])], by decide⟩
    let schema' : Object := ⟨[("id", id), ("note", .object [nullable, type])], by decide⟩
    let any (flag : Option Bool) : FieldSpec :=
      ⟨.scalar .any, none, flag, false, none, none, none⟩
    let integer : FieldSpec := ⟨.scalar .integer, some true, none, false, none, none, none⟩
    let t : Template := ⟨[("id", integer), ("note", any none)], by decide⟩
    let t' : Template := ⟨[("id", integer), ("note", any (some false))], by decide⟩
    let p : Object := ⟨[("id", .number (.integer 1)), ("x", .null), ("note", .bool false)],
      by decide⟩
    Tightening "nullable" (.bool false) ∧
      schema.Amends "note" "nullable" (.bool false) schema' ∧
      Template.compile schema = .ok t ∧ Template.compile schema' = .ok t' ∧
      (t'.report (.max 3) p).isValid = true ∧ (t.report (.max 3) p).isValid = true ∧ 3 ≤ 4 ∧
      (t.report (.max 4) p).isValid = true ∧ (t.report .disabled p).isValid = true := by
  intro type nullable id schema schema' any integer t t' p
  obtain ⟨hconstraint, hmax, hdisabled⟩ := tightening_monotone
  have hamends : schema.Amends "note" "nullable" (.bool false) schema' :=
    ⟨[("id", id)], [], .object [type], .object [nullable, type], ⟨[type], by decide⟩,
      ⟨[nullable, type], by decide⟩, rfl, rfl, rfl, rfl, .refl _⟩
  have hv' : (t'.report (.max 3) p).isValid = true := by decide
  have hv : (t.report (.max 3) p).isValid = true :=
    hconstraint schema schema' t t' _ _ _ .nullable hamends rfl rfl _ p hv'
  have hle : 3 ≤ 4 := by decide
  exact ⟨.nullable, hamends, rfl, rfl, hv', hv, hle, hmax t 3 4 p hle hv, hdisabled t _ p hv⟩

end PayloadCheck
