import Mathlib.Data.List.Nodup
import PayloadCheck.Proofs.Places

/-!
# Fields by themselves

What a report says of one field depends on the specification of that field and on its value alone.

* `KeyLimiter.field?_verdict_ne`: the verdict on the number of keys is never of a declared field;
* `Template.forField_report`: of a report, the verdicts of a field are those of its block;
* `forField_independent`: so neither the rest of the template, nor the rest of the payload, nor the
  limit on the keys changes them.
-/

namespace PayloadCheck

/-- What a collect-all run finds in a payload. -/
def Template.report (t : Template) (limit : KeyLimit) (payload : Object) : Outcome :=
  ((Plan.build t limit).execute payload .collectAll .empty).outcome

theorem Template.verdicts_report (t : Template) (limit : KeyLimit) (payload : Object) :
    (t.report limit payload).verdicts =
      ((limit.resolve t.size).map fun n => (KeyLimiter.mk n t.names).verdict payload).toList ++
        t.fields.flatMap fun f => f.2.block (payload.get? f.1) [.key f.1] := by
  rw [report, Plan.verdicts_execute, Mode.recorded, Plan.verdicts_build]

/-! ## Whose verdicts they are -/

theorem Verdict.field?_of_path {r : Verdict} {name : String} {rest : Path}
    (h : r.path = .key name :: rest) : r.field? = some name := by
  simp only [field?, h]

theorem FieldSpec.field?_of_mem_block {spec : FieldSpec} {value : Option Json} {name : String}
    {r : Verdict} (h : r ∈ spec.block value [.key name]) : r.field? = some name := by
  rcases mem_block h with ⟨-, hp, -⟩ | ⟨v, -, hpoints⟩
  · exact Verdict.field?_of_path hp
  · cases hpoints with
    | whole hp _ => exact Verdict.field?_of_path hp
    | element items i _ _ hp _ _ => exact Verdict.field?_of_path hp

/-- The path lists keys that are not known, so it does not start with one that is. -/
theorem KeyLimiter.field?_verdict_ne {l : KeyLimiter} {name : String} (h : name ∈ l.known)
    (payload : Object) : (l.verdict payload).field? ≠ some name := by
  unfold verdict
  split
  · nofun
  · cases hu : l.unknownKeys payload with
    | nil => nofun
    | cons key rest =>
      have hkey : key ∈ l.unknownKeys payload := by rw [hu]; exact List.mem_cons_self
      have hnot : key ∉ l.known := by simpa using (List.mem_filter.mp hkey).2
      intro hf
      obtain rfl : key = name := by simpa [Verdict.field?] using hf
      exact hnot h

/-! ## The verdicts of one field in a report -/

def Verdict.isOf (name : String) (r : Verdict) : Bool := r.field? == some name

theorem filter_block {spec : FieldSpec} {value : Option Json} {name : String} :
    (spec.block value [.key name]).filter (Verdict.isOf name) = spec.block value [.key name] := by
  refine List.filter_eq_self.mpr fun r hr => ?_
  simp [Verdict.isOf, FieldSpec.field?_of_mem_block hr]

theorem filter_blocks_of_ne {fields : List (String × FieldSpec)} {name : String}
    (h : ∀ f ∈ fields, f.1 ≠ name) (payload : Object) :
    (fields.flatMap fun f => f.2.block (payload.get? f.1) [.key f.1]).filter (Verdict.isOf name) =
      [] := by
  refine List.filter_eq_nil_iff.mpr fun r hr => ?_
  obtain ⟨f, hf, hr⟩ := List.mem_flatMap.mp hr
  simpa [Verdict.isOf, FieldSpec.field?_of_mem_block hr] using h f hf

/-- No name comes twice, so one block at most is of the field. -/
theorem filter_blocks {fields : List (String × FieldSpec)}
    (hd : (fields.map Prod.fst).Nodup) {name : String} {spec : FieldSpec}
    (h : (name, spec) ∈ fields) (payload : Object) :
    (fields.flatMap fun f => f.2.block (payload.get? f.1) [.key f.1]).filter (Verdict.isOf name) =
      spec.block (payload.get? name) [.key name] := by
  -- The block of the field stands between blocks of other fields, which the filter drops.
  obtain ⟨before, after, rfl⟩ := List.append_of_mem h
  rw [List.map_append, List.map_cons, List.nodup_middle, ← List.map_append, List.nodup_cons] at hd
  have hn : ∀ f ∈ before ++ after, f.1 ≠ name := by
    intro f hf he
    have hm : f.1 ∈ (before ++ after).map Prod.fst := List.mem_map_of_mem hf
    exact hd.1 (he ▸ hm)
  rw [List.flatMap_append, List.flatMap_cons, List.filter_append, List.filter_append,
    filter_blocks_of_ne fun f hf => hn f (List.mem_append_left _ hf),
    filter_blocks_of_ne fun f hf => hn f (List.mem_append_right _ hf), filter_block,
    List.nil_append, List.append_nil]

theorem Template.forField_report {t : Template} {name : String} {spec : FieldSpec}
    (h : (name, spec) ∈ t.fields) (limit : KeyLimit) (payload : Object) :
    (t.report limit payload).forField name = spec.block (payload.get? name) [.key name] := by
  have hkeys : ((limit.resolve t.size).map fun n =>
      (KeyLimiter.mk n t.names).verdict payload).toList.filter (Verdict.isOf name) = [] := by
    refine List.filter_eq_nil_iff.mpr fun r hr => ?_
    obtain ⟨n, -, rfl⟩ := Option.map_eq_some_iff.mp (Option.mem_toList.mp hr)
    have hname : name ∈ (KeyLimiter.mk n t.names).known := List.mem_map_of_mem h
    simpa [Verdict.isOf] using KeyLimiter.field?_verdict_ne hname payload
  change (t.report limit payload).verdicts.filter (Verdict.isOf name) = _
  rw [verdicts_report, List.filter_append, hkeys, List.nil_append]
  exact filter_blocks t.distinct h payload

/-- Running the checks of one field alone adds its block to what is there. -/
theorem Run.verdicts_checks_ofSpec (spec : FieldSpec) (name : String) (value : Option Json)
    (o : Outcome) (events : List Event) :
    (Run.checks .collectAll name value ⟨o, events, none⟩ (Check.ofSpec spec)).outcome.verdicts =
      o.verdicts ++ spec.block value [.key name] := by
  have ha := Run.checks_adds .collectAll name value ⟨o, events, none⟩ (Check.ofSpec spec) rfl
  rw [ha.outcome, Outcome.verdicts_pushAll, Mode.recorded, Check.sequence_ofSpec]

/-- Two reports agree on a field that their templates specify alike and their payloads hold alike:
each says of it what the checks of the field say by themselves. The verdict on the number of keys
is not among that. -/
theorem forField_independent {t₁ t₂ : Template} {name : String} {spec : FieldSpec}
    (h₁ : (name, spec) ∈ t₁.fields) (h₂ : (name, spec) ∈ t₂.fields) (limit₁ limit₂ : KeyLimit)
    {p₁ p₂ : Object} (hp : p₁.get? name = p₂.get? name) :
    (t₁.report limit₁ p₁).forField name = (t₂.report limit₂ p₂).forField name ∧
      (∀ o events,
        (Run.checks .collectAll name (p₁.get? name) ⟨o, events, none⟩
          (Check.ofSpec spec)).outcome.verdicts =
            o.verdicts ++ (t₁.report limit₁ p₁).forField name) ∧
      ∀ n, (KeyLimiter.mk n t₁.names).verdict p₁ ∉ (t₁.report limit₁ p₁).forField name := by
  have hb := Template.forField_report h₁ limit₁ p₁
  refine ⟨?_, fun o events => ?_, fun n hm => ?_⟩
  · rw [hb, Template.forField_report h₂ limit₂ p₂, hp]
  · rw [hb]
    exact Run.verdicts_checks_ofSpec spec name _ o events
  · rw [hb] at hm
    have hname : name ∈ (KeyLimiter.mk n t₁.names).known := List.mem_map_of_mem h₁
    exact KeyLimiter.field?_verdict_ne hname p₁ (FieldSpec.field?_of_mem_block hm)

/-- A field of the wrong type, alone in its template and its payload, and behind another field in a
payload with a key too many. -/
theorem forField_independent_surplus :
    let id : FieldSpec := ⟨.scalar .integer, some true, none, false, none, none, none⟩
    let note : FieldSpec := ⟨.scalar .string, some true, none, true, none, none, none⟩
    let t₁ : Template := ⟨[("id", id)], by decide⟩
    let t₂ : Template := ⟨[("note", note), ("id", id)], by decide⟩
    let p₁ : Object := ⟨[("id", .string "x")], by decide⟩
    let p₂ : Object := ⟨[("a", .null), ("b", .null), ("id", .string "x")], by decide⟩
    ("id", id) ∈ t₁.fields ∧ ("id", id) ∈ t₂.fields ∧ p₁.get? "id" = p₂.get? "id" ∧
      (t₁.report .schemaFields p₁).forField "id" = (t₂.report (.max 1) p₂).forField "id" ∧
      (∀ o events,
        (Run.checks .collectAll "id" (p₁.get? "id") ⟨o, events, none⟩
          (Check.ofSpec id)).outcome.verdicts =
            o.verdicts ++ (t₁.report .schemaFields p₁).forField "id") ∧
      ∀ n, (KeyLimiter.mk n t₁.names).verdict p₁ ∉
        (t₁.report .schemaFields p₁).forField "id" := by
  intro id note t₁ t₂ p₁ p₂
  have h₁ : ("id", id) ∈ t₁.fields := List.mem_cons_self
  have h₂ : ("id", id) ∈ t₂.fields := List.mem_cons_of_mem _ List.mem_cons_self
  exact ⟨h₁, h₂, rfl, forField_independent h₁ h₂ .schemaFields (.max 1) rfl⟩

end PayloadCheck
