import Mathlib.Data.List.Perm.Basic
import PayloadCheck.Proofs.FirstViolation
import PayloadCheck.Proofs.Isolation
import PayloadCheck.Proofs.Sequence

/-!
# Order does not matter

Objects keep the order of their members, and a collect-all run makes little of it.

* `Template.compile_of_specsRearranged`, `Plan.follows_build`: the members of a specification may
  come in any order, and the checks of a field come in theirs all the same;
* `Template.report_of_perm`: the order of a payload shows in the path of the verdict on too many
  keys and nowhere else;
* `Template.verdicts_report_of_fields`: a report has the verdicts on the fields in the order of the
  fields, whatever else is declared before or behind;
* `order_irrelevant`: all three together; none of them changes whether a payload is valid.
-/

namespace PayloadCheck

/-! ## Rearranging -/

/-- The members of two objects are the same, in whatever order. -/
def Json.Rearranged (raw raw' : Json) : Prop :=
  ∃ spec spec', raw.toObject? = some spec ∧ raw'.toObject? = some spec' ∧
    spec.members.Perm spec'.members

/-- The same fields in the same order, with the members of each specification in any. -/
def Object.SpecsRearranged (schema schema' : Object) : Prop :=
  List.Forall₂ (fun m m' => m'.1 = m.1 ∧ m.2.Rearranged m'.2) schema.members schema'.members

/-- The members of a specification ask for a check. -/
def Object.Asks (spec : Object) : Check → Prop
  | .required flag => spec.get? "required" = some (.bool flag)
  | .nullable flag => spec.get? "nullable" = some (.bool flag)
  | .notBlank => (spec.get? "notBlank").or (spec.get? "not_blank") = some (.bool true)
  | .type t => ∃ name, spec.get? "type" = some (.string name) ∧ FieldType.Named name t
  | .range b => spec.get? "range" = some b.toJson
  | .length b => spec.get? "length" = some b.toJson
  | .regex p => spec.get? "regex" = some (.string p.source) ∧ Pattern.compile? p.source = some p

/-- The plan of a field has the checks that its specification asks for, each kind once and in the
order of execution. -/
structure FieldPlan.Follows (p : FieldPlan) (name : String) (raw : Json) : Prop where
  name : p.name = name
  ordered : p.kinds.Pairwise fun k k' => k.rank < k'.rank
  typed : .type ∈ p.kinds
  asked : ∃ spec, raw.toObject? = some spec ∧ ∀ c, c ∈ p.checks ↔ spec.Asks c

/-- The verdict, if it is the one on too many keys, with the undeclared keys of a payload in the
order of that payload. -/
def Verdict.reordered (t : Template) (payload : Object) (r : Verdict) : Verdict :=
  if r.code = .invalidKeyLimiter then
    { r with path := (payload.keys.filter fun key => !t.names.contains key).map .key }
  else r

def Outcome.map (f : Verdict → Verdict) (o : Outcome) : Outcome :=
  ⟨o.verdicts.map f, o.errors.map f, o.valids.map f⟩

/-- The field is what the member says, under its name. -/
def Template.ReadsAs (m : String × Json) (f : String × FieldSpec) : Prop :=
  f.1 = m.1 ∧ FieldSpec.ofJson m.2 = .ok f.2

/-! ## The order within a specification -/

namespace FieldSpec

theorem ofObject_of_perm {spec spec' : Object} (h : spec.members.Perm spec'.members)
    {f : FieldSpec} (hf : ofObject spec = .ok f) : ofObject spec' = .ok f := by
  have hcode := code_of_perm h
  rw [hf] at hcode
  cases hf' : ofObject spec' with
  | error v =>
    rw [hf'] at hcode
    cases hcode
  | ok f' =>
    rw [hf'] at hcode
    exact congrArg Except.ok (Except.ok.inj hcode).symm

theorem ofJson_of_rearranged {raw raw' : Json} (h : raw.Rearranged raw') {f : FieldSpec}
    (hf : ofJson raw = .ok f) : ofJson raw' = .ok f := by
  obtain ⟨spec, spec', hs, hs', hp⟩ := h
  obtain ⟨found, hfound, hf⟩ := (ofJson_eq_ok raw f).mp hf
  obtain rfl : spec = found := Option.some.inj (hs.symm.trans hfound)
  exact (ofJson_eq_ok raw' f).mpr ⟨spec', hs', ofObject_of_perm hp hf⟩

end FieldSpec

namespace Template

theorem specsOf_eq_ok_iff (members : List (String × Json)) (fs : List (String × FieldSpec)) :
    specsOf members = .ok fs ↔ List.Forall₂ ReadsAs members fs := by
  induction members generalizing fs with
  | nil => cases fs <;> simp [specsOf, fieldsOf, Except.map]
  | cons m rest ih =>
    obtain ⟨name, raw⟩ := m
    rw [specsOf_cons, List.forall₂_cons_left_iff]
    constructor
    · intro h
      cases hr : FieldSpec.ofJson raw with
      | error v => simp [hr] at h
      | ok spec =>
        cases hs : specsOf rest with
        | error e => simp [hr, hs, Except.map] at h
        | ok gs =>
          simp only [hr, hs, Except.map, Except.ok.injEq] at h
          exact ⟨(name, spec), gs, ⟨rfl, hr⟩, (ih gs).mp hs, h.symm⟩
    · rintro ⟨⟨_, spec⟩, gs, ⟨rfl, hr⟩, hs, rfl⟩
      rw [hr, (ih gs).mpr hs]
      rfl

/-- A schema is compiled member by member. -/
theorem compile_eq_ok_iff_forall₂ (schema : Object) (t : Template) :
    compile schema = .ok t ↔ List.Forall₂ ReadsAs schema.members t.fields := by
  rw [← specsOf_eq_ok_iff, ← compile_eq_ok_iff]
  constructor
  · intro h
    exact ⟨t, h, rfl⟩
  · rintro ⟨⟨fields, _⟩, h, rfl⟩
    exact h

theorem readsAs_of_rearranged {ms ms' : List (String × Json)} {fs : List (String × FieldSpec)}
    (h : List.Forall₂ (fun m m' => m'.1 = m.1 ∧ m.2.Rearranged m'.2) ms ms')
    (hf : List.Forall₂ ReadsAs ms fs) : List.Forall₂ ReadsAs ms' fs := by
  induction h generalizing fs with
  | nil => exact hf
  | cons hm _ ih =>
    obtain ⟨f, gs, ⟨hname, hread⟩, hgs, rfl⟩ := List.forall₂_cons_left_iff.mp hf
    exact .cons ⟨hname.trans hm.1.symm, FieldSpec.ofJson_of_rearranged hm.2 hread⟩ (ih hgs)

theorem compile_of_specsRearranged {schema schema' : Object} {t : Template}
    (ht : compile schema = .ok t) (h : schema.SpecsRearranged schema') :
    compile schema' = .ok t := by
  rw [compile_eq_ok_iff_forall₂] at ht ⊢
  exact readsAs_of_rearranged h ht

end Template

/-! ## The checks of a field -/

namespace Check

theorem kind_of_ofConstraint? {spec : FieldSpec} {k : ConstraintKind} {c : Check}
    (h : ofConstraint? spec k = some c) : c.kind = k := by
  cases k with
  | keyLimiter => cases h
  | type =>
    cases h
    rfl
  | notBlank =>
    simp only [ofConstraint?] at h
    split at h <;> cases h
    rfl
  | _ =>
    obtain ⟨_, -, rfl⟩ := Option.map_eq_some_iff.mp h
    rfl

theorem mem_ofSpec_iff (spec : FieldSpec) (c : Check) :
    c ∈ ofSpec spec ↔ ofConstraint? spec c.kind = some c := by
  unfold ofSpec
  rw [List.mem_filterMap]
  constructor
  · rintro ⟨k, -, hc⟩
    rw [kind_of_ofConstraint? hc]
    exact hc
  · intro hc
    have hk : c.kind ∈ ConstraintKind.fieldOrder := by
      cases c <;> simp [kind, ConstraintKind.fieldOrder]
    exact ⟨c.kind, hk, hc⟩

/-- Of each kind there is one check at most, and the kinds keep their order. -/
theorem kinds_sublist (spec : FieldSpec) (ks : List ConstraintKind) :
    ((ks.filterMap (ofConstraint? spec)).map kind).Sublist ks := by
  induction ks with
  | nil => exact .slnil
  | cons k rest ih =>
    cases hc : ofConstraint? spec k with
    | none =>
      rw [List.filterMap_cons_none hc]
      exact ih.cons k
    | some c =>
      rw [List.filterMap_cons_some hc, List.map_cons, kind_of_ofConstraint? hc]
      exact ih.cons_cons k

theorem kinds_ofSpec_ordered (spec : FieldSpec) :
    ((ofSpec spec).map kind).Pairwise fun k k' => k.rank < k'.rank := by
  have horder : ConstraintKind.fieldOrder.Pairwise fun k k' => k.rank < k'.rank := by decide
  exact horder.sublist (kinds_sublist spec ConstraintKind.fieldOrder)

/-- What is declared can be told from how it is written, and from the check on it. -/
theorem map_check_eq_iff {α : Type} {check : α → Check} {write : α → Json}
    (hc : Function.Injective check) (hw : Function.Injective write) {declared : Option α}
    {found : Option Json} (h : found = declared.map write) (a : α) :
    declared.map check = some (check a) ↔ found = some (write a) := by
  subst h
  cases declared <;> simp [hc.eq_iff, hw.eq_iff]

/-- The checks of a field are those that its specification asks for. -/
theorem mem_ofSpec_iff_asks {spec : Object} {f : FieldSpec}
    (h : FieldSpec.ofObject spec = .ok f) (c : Check) : c ∈ ofSpec f ↔ spec.Asks c := by
  obtain ⟨-, htype, hrequired, hnullable, ⟨flag, hblank, hfb⟩, hrange, hlength, hregex⟩ :=
    (FieldSpec.ofObject_eq_ok spec f).mp h
  have hbounds : Function.Injective Bounds.toJson := fun _ _ => Bounds.toJson_injective
  have hbool : Function.Injective Json.bool := fun _ _ => Json.bool.inj
  rw [mem_ofSpec_iff]
  cases c with
  | required b =>
    have hget := (FieldSpec.flagOf_eq_ok spec "required" f.required).mp hrequired
    exact map_check_eq_iff (fun _ _ => Check.required.inj) hbool hget b
  | nullable b =>
    have hget := (FieldSpec.flagOf_eq_ok spec "nullable" f.nullable).mp hnullable
    exact map_check_eq_iff (fun _ _ => Check.nullable.inj) hbool hget b
  | notBlank =>
    have hget := (FieldSpec.flagOf_pair_eq_ok spec "notBlank" "not_blank" flag).mp hblank
    rw [Object.Asks, hget]
    cases flag <;> simp [kind, ofConstraint?, hfb]
  | type t =>
    rw [Object.Asks, ← FieldSpec.typeOf_eq_ok, htype]
    simp [kind, ofConstraint?]
  | range b =>
    have hget := ((FieldSpec.boundsOf_eq_ok spec "range" f.range).mp hrange).1
    exact map_check_eq_iff (fun _ _ => Check.range.inj) hbounds hget b
  | length b =>
    have hget := ((FieldSpec.lengthOf_eq_ok spec f.length).mp hlength).1
    exact map_check_eq_iff (fun _ _ => Check.length.inj) hbounds hget b
  | regex p =>
    constructor
    · intro hc
      obtain ⟨p', hp, he⟩ := Option.map_eq_some_iff.mp hc
      obtain rfl : p' = p := Check.regex.inj he
      obtain ⟨hget, hprogram⟩ := (FieldSpec.regexOf_eq_ok spec f.regex).mp hregex
      rw [hp] at hget
      exact ⟨hget, hprogram p' hp⟩
    · rintro ⟨hget, hp⟩
      have hok : FieldSpec.regexOf spec = .ok (some p) :=
        (FieldSpec.regexOf_eq_ok spec (some p)).mpr ⟨hget, fun _ h => Option.some.inj h ▸ hp⟩
      have hf : f.regex = some p := Except.ok.inj (hregex.symm.trans hok)
      exact congrArg (Option.map Check.regex) hf

end Check

/-- Each field of an accepted schema is planned as its specification asks. -/
theorem Plan.follows_build {schema : Object} {t : Template} (h : Template.compile schema = .ok t)
    (limit : KeyLimit) :
    List.Forall₂ (fun m p => FieldPlan.Follows p m.1 m.2) schema.members
      (Plan.build t limit).fields := by
  have hreads := (Template.compile_eq_ok_iff_forall₂ schema t).mp h
  refine List.forall₂_map_right_iff.mpr (hreads.imp fun m f hm => ?_)
  obtain ⟨spec, hs, hf⟩ := (FieldSpec.ofJson_eq_ok m.2 f.2).mp hm.2
  have htype : Check.type f.2.type ∈ Check.ofSpec f.2 := (Check.mem_ofSpec_iff ..).mpr rfl
  exact {
    name := hm.1
    ordered := Check.kinds_ofSpec_ordered f.2
    typed := List.mem_map_of_mem htype
    asked := ⟨spec, hs, Check.mem_ofSpec_iff_asks hf⟩ }

/-! ## The order of a payload -/

namespace Outcome

theorem map_pushAll {f : Verdict → Verdict} (hf : ∀ v, (f v).isValid = v.isValid) (o : Outcome)
    (vs : List Verdict) : (o.map f).pushAll (vs.map f) = (o.pushAll vs).map f := by
  induction vs generalizing o with
  | nil => rfl
  | cons v rest ih =>
    have hv : (o.map f).push (f v) = (o.push v).map f := by
      unfold push
      rw [hf]
      split <;> simp [map]
    rw [List.map_cons, pushAll_cons, pushAll_cons, hv, ih]

theorem isValid_map (f : Verdict → Verdict) (o : Outcome) : (o.map f).isValid = o.isValid := by
  simp [isValid, map]

end Outcome

theorem Verdict.isValid_reordered (t : Template) (payload : Object) (r : Verdict) :
    (r.reordered t payload).isValid = r.isValid := by
  unfold reordered
  split <;> rfl

/-- No check of a field fails with the code of the one on the number of keys. -/
theorem Check.code_ne_of_mem_verdicts {c : Check} {value : Option Json} {path : Path} {r : Verdict}
    (h : r ∈ c.verdicts value path) : r.code ≠ .invalidKeyLimiter := by
  cases c with
  | type t =>
    cases value with
    | none =>
      obtain rfl := List.mem_singleton.mp h
      nofun
    | some v => rcases mem_typeVerdicts h with ⟨_, rfl⟩ | rfl | ⟨_, _, _, _, _, rfl⟩ <;> nofun
  | regex p =>
    cases value with
    | none =>
      obtain rfl := List.mem_singleton.mp h
      nofun
    | some v => rcases mem_regexVerdicts h with rfl | rfl | ⟨_, _, _, _, rfl⟩ <;> nofun
  | _ =>
    obtain rfl := List.mem_singleton.mp h
    simp only [requiredVerdict, nullableVerdict, notBlankVerdict, rangeVerdict, lengthVerdict]
    repeat' split
    all_goals nofun

theorem FieldSpec.reordered_of_mem_block {spec : FieldSpec} {value : Option Json} {path : Path}
    {r : Verdict} (h : r ∈ spec.block value path) (t : Template) (payload : Object) :
    r.reordered t payload = r := by
  rw [← Check.sequence_ofSpec] at h
  obtain ⟨c, -, hc⟩ := Check.mem_sequence h
  exact if_neg (Check.code_ne_of_mem_verdicts (Check.guarded_of_mem_contribution hc).2)

theorem KeyLimiter.verdict_of_perm (n : Nat) (t : Template) {p p' : Object}
    (h : p.members.Perm p'.members) :
    (KeyLimiter.mk n t.names).verdict p' =
        ((KeyLimiter.mk n t.names).verdict p).reordered t p' ∧
      ((KeyLimiter.mk n t.names).verdict p).path.Perm
        (((KeyLimiter.mk n t.names).verdict p).reordered t p').path := by
  have hsize : p'.size = p.size := h.length_eq.symm
  unfold verdict
  rw [hsize]
  split
  · exact ⟨rfl, .refl _⟩
  · have hkeys : p.keys.Perm p'.keys := h.map Prod.fst
    exact ⟨rfl, (hkeys.filter _).map _⟩

namespace Template

theorem report_eq (t : Template) (limit : KeyLimit) (payload : Object) :
    t.report limit payload =
      Outcome.empty.pushAll (t.keyVerdicts payload limit ++
        t.fields.flatMap fun f => f.2.block (payload.get? f.1) [.key f.1]) := by
  rw [report, Plan.execute_outcome, Mode.recorded, Plan.verdicts_build, keyVerdicts_eq]

theorem keyVerdicts_of_perm (t : Template) (limit : KeyLimit) {p p' : Object}
    (h : p.members.Perm p'.members) :
    t.keyVerdicts p' limit = (t.keyVerdicts p limit).map (Verdict.reordered t p') := by
  rw [keyVerdicts_eq, keyVerdicts_eq]
  cases limit.resolve t.size with
  | none => rfl
  | some n => exact congrArg (fun r => [r]) (KeyLimiter.verdict_of_perm n t h).1

theorem mem_keyVerdicts {t : Template} {limit : KeyLimit} {payload : Object} {r : Verdict}
    (h : r ∈ t.keyVerdicts payload limit) :
    ∃ n, r = (KeyLimiter.mk n t.names).verdict payload := by
  rw [keyVerdicts_eq] at h
  obtain ⟨n, -, rfl⟩ := Option.map_eq_some_iff.mp (Option.mem_toList.mp h)
  exact ⟨n, rfl⟩

/-- The order of a payload shows in the path of the verdict on too many keys, and nowhere else. -/
theorem report_of_perm (t : Template) (limit : KeyLimit) {p p' : Object}
    (h : p.members.Perm p'.members) :
    t.report limit p' = (t.report limit p).map (Verdict.reordered t p') := by
  have hblocks : (t.fields.flatMap fun f => f.2.block (p.get? f.1) [.key f.1]).map
      (Verdict.reordered t p') = t.fields.flatMap fun f => f.2.block (p.get? f.1) [.key f.1] := by
    refine (List.map_congr_left fun r hr => ?_).trans (List.map_id _)
    obtain ⟨f, -, hf⟩ := List.mem_flatMap.mp hr
    exact FieldSpec.reordered_of_mem_block hf t p'
  rw [report_eq, report_eq, ← Outcome.map_pushAll (Verdict.isValid_reordered t p'),
    List.map_append, ← keyVerdicts_of_perm t limit h, hblocks, Object.get?_eq_of_perm h]
  rfl

theorem path_of_perm (t : Template) (limit : KeyLimit) {p p' : Object}
    (h : p.members.Perm p'.members) {r : Verdict} (hr : r ∈ (t.report limit p).verdicts) :
    r.path.Perm (r.reordered t p').path := by
  rw [verdicts_report, ← keyVerdicts_eq] at hr
  rcases List.mem_append.mp hr with hk | hb
  · obtain ⟨n, rfl⟩ := mem_keyVerdicts hk
    exact (KeyLimiter.verdict_of_perm n t h).2
  · obtain ⟨f, -, hf⟩ := List.mem_flatMap.mp hb
    rw [FieldSpec.reordered_of_mem_block hf t p']

/-! ## The order of the fields -/

/-- What is compiled in one order is compiled in any other, and its fields are rearranged alike. -/
theorem compile_of_perm {schema schema' : Object} {t : Template} (ht : compile schema = .ok t)
    (h : schema.members.Perm schema'.members) :
    ∃ t', compile schema' = .ok t' ∧ t'.fields.Perm t.fields := by
  have hreads := (compile_eq_ok_iff_forall₂ schema t).mp ht
  obtain ⟨fs, hfs, hperm⟩ := List.perm_comp_forall₂ h.symm hreads
  obtain ⟨t', ht', rfl⟩ :=
    (compile_eq_ok_iff schema' fs).mpr ((specsOf_eq_ok_iff schema'.members fs).mpr hfs)
  exact ⟨t', ht', hperm⟩

/-- The verdict on the number of keys goes by the number of fields and their names. -/
theorem keyVerdicts_of_fields {t t' : Template} (h : t'.fields.Perm t.fields) (limit : KeyLimit)
    (payload : Object) : t'.keyVerdicts payload limit = t.keyVerdicts payload limit := by
  have hsize : t'.size = t.size := h.length_eq
  have hnames (key : String) : t'.names.contains key = t.names.contains key :=
    (h.map Prod.fst).contains_eq
  have hverdict (n : Nat) : (KeyLimiter.mk n t'.names).verdict payload =
      (KeyLimiter.mk n t.names).verdict payload := by
    simp only [KeyLimiter.verdict, KeyLimiter.unknownKeys, hnames]
  rw [keyVerdicts_eq, keyVerdicts_eq, hsize]
  simp only [hverdict]

/-- Fields of a template have their verdicts in its reports, in whatever order they are taken. -/
theorem flatMap_block_eq {t : Template} {fs : List (String × FieldSpec)}
    (h : ∀ f ∈ fs, f ∈ t.fields) (limit : KeyLimit) (payload : Object) :
    (fs.flatMap fun f => f.2.block (payload.get? f.1) [.key f.1]) =
      (fs.map Prod.fst).flatMap (t.report limit payload).forField := by
  rw [List.flatMap_map]
  refine List.flatMap_congr fun f hf => ?_
  exact (forField_report (h f hf) limit payload).symm

theorem verdicts_report_of_fields {t t' : Template} (h : t'.fields.Perm t.fields)
    (limit : KeyLimit) (payload : Object) :
    (t'.report limit payload).verdicts =
      t.keyVerdicts payload limit ++ t'.names.flatMap (t.report limit payload).forField := by
  rw [verdicts_report, ← keyVerdicts_eq, keyVerdicts_of_fields h]
  congr 1
  exact flatMap_block_eq (fun f hf => h.mem_iff.mp hf) limit payload

theorem isValid_report_iff (t : Template) (limit : KeyLimit) (payload : Object) :
    (t.report limit payload).isValid = true ↔
      ∀ r ∈ (t.report limit payload).verdicts, r.isValid = true := by
  rw [report_eq, Outcome.isValid_pushAll, Outcome.verdicts_pushAll]
  exact and_iff_right rfl

theorem isValid_report_of_fields {t t' : Template} (h : t'.fields.Perm t.fields)
    (limit : KeyLimit) (payload : Object) :
    (t'.report limit payload).isValid = (t.report limit payload).isValid := by
  have hnames : t'.names.Perm t.names := h.map Prod.fst
  rw [Bool.eq_iff_iff, isValid_report_iff, isValid_report_iff,
    verdicts_report_of_fields h, verdicts_report_of_fields (.refl t.fields)]
  simp only [List.mem_append, List.mem_flatMap, hnames.mem_iff]

end Template

/-- The members of a specification may come in any order: the template is the same, and so is the
plan, in which the checks that are asked for come in the order of execution. Of a payload in another
order the report differs in the path of the verdict on too many keys, which has the undeclared keys
in that order. Where the fields of a schema are in another order, the verdict on the keys is the
same, and so are those on each field, which come in that order. Whether the payload is valid never
changes. -/
theorem order_irrelevant :
    (∀ schema t, Template.compile schema = .ok t →
      (∀ schema', schema.SpecsRearranged schema' → Template.compile schema' = .ok t) ∧
      ∀ limit, List.Forall₂ (fun m p => FieldPlan.Follows p m.1 m.2) schema.members
        (Plan.build t limit).fields) ∧
    (∀ (t : Template) (limit : KeyLimit) (p p' : Object), p.members.Perm p'.members →
      t.report limit p' = (t.report limit p).map (Verdict.reordered t p') ∧
      (∀ r ∈ (t.report limit p).verdicts, r.path.Perm (r.reordered t p').path) ∧
      (t.report limit p').isValid = (t.report limit p).isValid) ∧
    ∀ schema schema' t, Template.compile schema = .ok t → schema.members.Perm schema'.members →
      ∃ t', Template.compile schema' = .ok t' ∧ ∀ limit payload,
        t'.keyVerdicts payload limit = t.keyVerdicts payload limit ∧
        (t.report limit payload).verdicts = t.keyVerdicts payload limit ++
          schema.keys.flatMap (t.report limit payload).forField ∧
        (t'.report limit payload).verdicts = t.keyVerdicts payload limit ++
          schema'.keys.flatMap (t.report limit payload).forField ∧
        (t'.report limit payload).isValid = (t.report limit payload).isValid := by
  refine ⟨fun schema t ht => ⟨fun schema' h => ?_, fun limit => ?_⟩, fun t limit p p' h => ?_,
    fun schema schema' t ht h => ?_⟩
  · exact Template.compile_of_specsRearranged ht h
  · exact Plan.follows_build ht limit
  · have hreport := t.report_of_perm limit h
    refine ⟨hreport, fun r hr => t.path_of_perm limit h hr, ?_⟩
    rw [hreport, Outcome.isValid_map]
  · obtain ⟨t', ht', hperm⟩ := Template.compile_of_perm ht h
    have hnames : t.names = schema.keys := (Template.compile_spec ht).1
    have hnames' : t'.names = schema'.keys := (Template.compile_spec ht').1
    refine ⟨t', ht', fun limit payload => ⟨?_, ?_, ?_, ?_⟩⟩
    · exact Template.keyVerdicts_of_fields hperm limit payload
    · rw [← hnames]
      exact Template.verdicts_report_of_fields (.refl t.fields) limit payload
    · rw [← hnames']
      exact Template.verdicts_report_of_fields hperm limit payload
    · exact Template.isValid_report_of_fields hperm limit payload

/-- A specification, a payload with too many keys, and a schema of two fields, each turned round. -/
theorem order_irrelevant_turned :
    let type : String × Json := ("type", .string "string")
    let length : String × Json := ("length", .array [.number (.integer 1), .null])
    let id : Json := .object [("type", .string "integer")]
    let schema : Object := ⟨[("name", .object [type, length]), ("id", id)], by decide⟩
    let inner : Object := ⟨[("name", .object [length, type]), ("id", id)], by decide⟩
    let outer : Object := ⟨[("id", id), ("name", .object [type, length])], by decide⟩
    let t : Template := ⟨[("name", ⟨.scalar .string, none, none, false, none,
      some ⟨some (.integer 1), none⟩, none⟩),
      ("id", ⟨.scalar .integer, none, none, false, none, none, none⟩)], by decide⟩
    let p : Object := ⟨[("x", .null), ("name", .string ""), ("y", .null)], by decide⟩
    let p' : Object := ⟨[("y", .null), ("name", .string ""), ("x", .null)], by decide⟩
    let r : Verdict := ⟨.invalidKeyLimiter, "at most 2 keys", "3", [.key "x", .key "y"],
      "Number of keys is above the limit"⟩
    Template.compile schema = .ok t ∧ schema.SpecsRearranged inner ∧
      Template.compile inner = .ok t ∧
      List.Forall₂ (fun m p => FieldPlan.Follows p m.1 m.2) schema.members
        (Plan.build t .schemaFields).fields ∧
      p.members.Perm p'.members ∧ r ∈ (t.report .schemaFields p).verdicts ∧
      t.report .schemaFields p' = (t.report .schemaFields p).map (Verdict.reordered t p') ∧
      (r.reordered t p').path = [.key "y", .key "x"] ∧ r.path.Perm (r.reordered t p').path ∧
      schema.members.Perm outer.members ∧ ∃ t', Template.compile outer = .ok t' ∧
        (t'.report .schemaFields p).verdicts = t.keyVerdicts p .schemaFields ++
          outer.keys.flatMap (t.report .schemaFields p).forField := by
  intro type length id schema inner outer t p p' r
  obtain ⟨hspecs, hpayload, hfields⟩ := order_irrelevant
  have ht : Template.compile schema = .ok t := rfl
  have hinner : schema.SpecsRearranged inner := by
    have hname : Json.Rearranged (.object [type, length]) (.object [length, type]) :=
      ⟨_, _, rfl, rfl, .swap ..⟩
    have hid : id.Rearranged id := ⟨_, _, rfl, rfl, .refl _⟩
    exact .cons ⟨rfl, hname⟩ (.cons ⟨rfl, hid⟩ .nil)
  have hp : p.members.Perm p'.members := List.reverse_perm p'.members
  have hr : r ∈ (t.report .schemaFields p).verdicts := by decide
  have houter : schema.members.Perm outer.members := .swap ..
  obtain ⟨hreport, hpath, -⟩ := hpayload t .schemaFields p p' hp
  obtain ⟨t', ht', hparts⟩ := hfields schema outer t ht houter
  exact ⟨ht, hinner, (hspecs schema t ht).1 inner hinner, (hspecs schema t ht).2 .schemaFields, hp,
    hr, hreport, rfl, hpath r hr, houter, t', ht', (hparts .schemaFields p).2.2.1⟩

end PayloadCheck
