import PayloadCheck.Proofs.Isolation
import PayloadCheck.Proofs.KeyCount
import PayloadCheck.Proofs.Rearrangement

/-!
# The field that a verdict names

`Verdict.field?` gives the key that a path starts with, whatever follows it.

* `FieldSpec.isAboutOnly_of_mem_block`: behind the key of a field there is no other key, so what the
  checks of a field find is about that field;
* `KeyLimiter.path_of_code`: too many keys are found with all undeclared keys on the path;
* `field?_single_unless_surplus`: so the verdict names its only key, unless it finds too many keys
  and several are undeclared. It names the first of them then.
-/

namespace PayloadCheck

/-- The keys of a payload that the template does not declare, in the order of the payload. -/
def Template.undeclaredKeys (t : Template) (payload : Object) : List String :=
  payload.keys.filter fun key => !t.names.contains key

namespace Verdict

/-- There is no other key on the path. -/
def IsAboutOnly (r : Verdict) (name : String) : Prop :=
  ∀ key, PathSegment.key key ∈ r.path → key = name

/-- The verdict finds too many keys where several are undeclared. -/
def IsSurplus (r : Verdict) (t : Template) (payload : Object) : Prop :=
  r.code = .invalidKeyLimiter ∧ 2 ≤ (t.undeclaredKeys payload).length

end Verdict

/-! ## Verdicts on a field -/

namespace FieldSpec

variable {spec : FieldSpec} {value : Option Json} {name : String} {r : Verdict}

theorem isAboutOnly_of_mem_block (h : r ∈ spec.block value [.key name]) : r.IsAboutOnly name := by
  have hpath : r.path = [.key name] ∨ ∃ i, r.path = [.key name, .index i] := by
    rcases mem_block h with ⟨-, hp, -⟩ | ⟨v, -, hpoints⟩
    · exact .inl hp
    · cases hpoints with
      | whole hp _ => exact .inl hp
      | element items i _ _ hp _ _ => exact .inr ⟨i, hp⟩
  intro key hkey
  rcases hpath with hp | ⟨i, hp⟩
  · rw [hp] at hkey
    simpa using hkey
  · rw [hp] at hkey
    simpa using hkey

theorem code_ne_of_mem_block (h : r ∈ spec.block value [.key name]) :
    r.code ≠ .invalidKeyLimiter := by
  rw [← Check.sequence_ofSpec] at h
  obtain ⟨c, -, hc⟩ := Check.mem_sequence h
  exact Check.code_ne_of_mem_verdicts (Check.guarded_of_mem_contribution hc).2

end FieldSpec

/-! ## The verdict on the number of keys -/

theorem KeyLimiter.path_of_code {t : Template} {n : Nat} {payload : Object}
    (h : ((KeyLimiter.mk n t.names).verdict payload).code = .invalidKeyLimiter) :
    ((KeyLimiter.mk n t.names).verdict payload).path =
      (t.undeclaredKeys payload).map .key :=
  path_of_failing h

/-- Within the limit the path is empty, and beyond it only undeclared keys are on it. -/
theorem KeyLimiter.code_of_field? {t : Template} {n : Nat} {payload : Object} {name : String}
    (h : ((KeyLimiter.mk n t.names).verdict payload).field? = some name) :
    ((KeyLimiter.mk n t.names).verdict payload).code = .invalidKeyLimiter := by
  rcases Nat.lt_or_ge n payload.size with hlt | hle
  · exact (verdict_of_beyond (l := ⟨n, t.names⟩) hlt).1
  · rw [Verdict.field?, (verdict_of_within (l := ⟨n, t.names⟩) hle).2] at h
    cases h

namespace Verdict

variable {r : Verdict} {keys : List String}

theorem field?_of_keys (h : r.path = keys.map .key) : r.field? = keys.head? := by
  unfold field?
  rw [h]
  cases keys <;> rfl

/-- No key comes twice, so a list of them that has but one is that one alone. -/
theorem isAboutOnly_iff_of_keys (h : r.path = keys.map .key) (hd : keys.Nodup) {name : String}
    (hn : keys.head? = some name) : r.IsAboutOnly name ↔ ¬ 2 ≤ keys.length := by
  have hmem (key : String) : PathSegment.key key ∈ r.path ↔ key ∈ keys := by
    rw [h]
    simp
  simp only [IsAboutOnly, hmem]
  cases keys with
  | nil => cases hn
  | cons first rest =>
    obtain rfl : first = name := by simpa using hn
    cases rest with
    | nil => simp
    | cons second rest =>
      have hne : first ≠ second := by
        rintro rfl
        simp at hd
      constructor
      · intro hall
        exact absurd (hall second (by simp)).symm hne
      · intro hlength
        simp at hlength

end Verdict

/-! ## Runs -/

theorem Template.nodup_undeclaredKeys (t : Template) (payload : Object) :
    (t.undeclaredKeys payload).Nodup := by
  have hd : payload.keys.Nodup := payload.distinct
  exact hd.filter _

/-- A verdict of a run is on the number of keys or on a field. -/
theorem Plan.mem_verdicts_execute {t : Template} {limit : KeyLimit} {payload : Object}
    {mode : Mode} {r : Verdict}
    (h : r ∈ ((build t limit).execute payload mode .empty).outcome.verdicts) :
    (∃ n, r = (KeyLimiter.mk n t.names).verdict payload) ∨
      ∃ f ∈ t.fields, r ∈ f.2.block (payload.get? f.1) [.key f.1] := by
  rw [verdicts_execute] at h
  have hr := Mode.mem_of_mem_recorded h
  rw [verdicts_build] at hr
  rcases List.mem_append.mp hr with hk | hb
  · obtain ⟨n, -, rfl⟩ := Option.map_eq_some_iff.mp (Option.mem_toList.mp hk)
    exact .inl ⟨n, rfl⟩
  · exact .inr (List.mem_flatMap.mp hb)

/-- A verdict that names a field has no other key on its path, unless it finds too many keys where
several are undeclared. Such a verdict lists the undeclared keys and is kept for the first. -/
theorem field?_single_unless_surplus (t : Template) (limit : KeyLimit) (payload : Object)
    (mode : Mode) (r : Verdict)
    (h : r ∈ ((Plan.build t limit).execute payload mode .empty).outcome.verdicts) :
    (∀ name, r.field? = some name → (r.IsAboutOnly name ↔ ¬ r.IsSurplus t payload)) ∧
      (r.code = .invalidKeyLimiter →
        r.path = (t.undeclaredKeys payload).map .key ∧
          ∀ name, r ∈ ((Plan.build t limit).execute payload mode .empty).outcome.forField name ↔
            (t.undeclaredKeys payload).head? = some name) := by
  have hfor (name : String) :
      r ∈ ((Plan.build t limit).execute payload mode .empty).outcome.forField name ↔
        r.field? = some name := by
    simp [Outcome.forField, h]
  rcases Plan.mem_verdicts_execute h with ⟨n, rfl⟩ | ⟨f, -, hb⟩
  · refine ⟨fun name hname => ?_, fun hc => ?_⟩
    · have hc := KeyLimiter.code_of_field? hname
      have hp := KeyLimiter.path_of_code hc
      rw [Verdict.field?_of_keys hp] at hname
      rw [Verdict.isAboutOnly_iff_of_keys hp (t.nodup_undeclaredKeys payload) hname,
        Verdict.IsSurplus, hc]
      simp
    · have hp := KeyLimiter.path_of_code hc
      exact ⟨hp, fun name => by rw [hfor, Verdict.field?_of_keys hp]⟩
  · have hc := FieldSpec.code_ne_of_mem_block hb
    refine ⟨fun name hname => ?_, fun hk => absurd hk hc⟩
    obtain rfl : f.1 = name := by
      rw [FieldSpec.field?_of_mem_block hb] at hname
      exact Option.some.inj hname
    have hnot : ¬ r.IsSurplus t payload := fun hs => hc hs.1
    exact ⟨fun _ => hnot, fun _ => FieldSpec.isAboutOnly_of_mem_block hb⟩

/-- A payload of two keys under a schema without fields: the verdict on their number names the
first, is kept for it, and has the second on its path as well. -/
theorem surplus_named_by_first_key :
    let payload : Object := ⟨[("a", .null), ("b", .null)], by decide⟩
    ∃ t, Template.compile .empty = .ok t ∧
      ∃ r ∈ ((Plan.build t .schemaFields).execute payload .collectAll .empty).outcome.verdicts,
        r.field? = some "a" ∧ ¬ r.IsAboutOnly "a" ∧
          r ∈ ((Plan.build t .schemaFields).execute payload .collectAll
            .empty).outcome.forField "a" := by
  refine ⟨_, rfl, _, List.mem_cons_self, rfl, fun hall => ?_, List.mem_cons_self⟩
  have he : "b" = "a" := hall "b" (by decide)
  exact absurd he (by decide)

/-- One key too many, which is the only undeclared one: it is named rightly. -/
theorem field?_single_unless_surplus_one :
    let t : Template :=
      ⟨[("id", ⟨.scalar .integer, some true, none, false, none, none, none⟩)], by decide⟩
    let payload : Object := ⟨[("x", .null), ("id", .number (.integer 1))], by decide⟩
    let r := (KeyLimiter.mk 1 t.names).verdict payload
    r ∈ ((Plan.build t .schemaFields).execute payload .failFast .empty).outcome.verdicts ∧
      r.field? = some "x" ∧ r.IsAboutOnly "x" := by
  intro t payload r
  have h : r ∈ ((Plan.build t .schemaFields).execute payload .failFast .empty).outcome.verdicts :=
    List.mem_cons_self
  have hs := field?_single_unless_surplus t .schemaFields payload .failFast r h
  have hnot : ¬ r.IsSurplus t payload := fun hs => absurd hs.2 (by decide)
  exact ⟨h, rfl, (hs.1 "x" rfl).mpr hnot⟩

end PayloadCheck
