import Mathlib.Data.List.Nodup
import PayloadCheck.Proofs.Blocks

/-!
# The number of keys

What a run says of the number of keys, where there is a limit on it.

* `KeyLimiter.size_le_known_add_unknown`: a payload with more keys than are known has unknown ones,
  at least as many as it has keys too many;
* `Template.countsKeys_verdict`: the verdict fails exactly beyond the limit, and then lists the
  undeclared keys;
* `key_count_judged_first`: it is the first verdict of a run, in either mode, and under the limit
  that the template sets it never fails without an undeclared key.
-/

namespace PayloadCheck

namespace Template

/-- The keys of the payload that the template does not declare, as the payload has them. -/
structure Undeclared (t : Template) (payload : Object) (keys : List String) : Prop where
  sublist : keys.Sublist payload.keys
  nodup : keys.Nodup
  mem_iff : ∀ key, key ∈ keys ↔ key ∈ payload.keys ∧ key ∉ t.names

/-- What a verdict says of the number of keys, where `n` of them are allowed. -/
structure CountsKeys (t : Template) (n : Nat) (payload : Object) (r : Verdict) : Prop where
  within_iff : r.code = .valid ∧ r.path = [] ↔ payload.size ≤ n
  beyond : n < payload.size → r.code = .invalidKeyLimiter ∧ r.received = toString payload.size
  listed : n < payload.size → ∃ keys, t.Undeclared payload keys ∧ r.path = keys.map .key
  size_le : n < payload.size → payload.size ≤ t.size + r.path.length

end Template

/-! ## Keys that are not known -/

namespace KeyLimiter

theorem mem_unknownKeys_iff (l : KeyLimiter) (payload : Object) (key : String) :
    key ∈ l.unknownKeys payload ↔ key ∈ payload.keys ∧ key ∉ l.known := by
  simp [unknownKeys]

/-- The known keys of a payload are as many as there are at most, since none comes twice. -/
theorem length_filter_known_le (l : KeyLimiter) (payload : Object) :
    (payload.keys.filter fun key => l.known.contains key).length ≤ l.known.length := by
  have hd : payload.keys.Nodup := payload.distinct
  apply (hd.filter _).length_le_of_subset
  intro key hk
  simpa using (List.mem_filter.mp hk).2

theorem size_le_known_add_unknown (l : KeyLimiter) (payload : Object) :
    payload.size ≤ l.known.length + (l.unknownKeys payload).length := by
  have hsize : payload.size = payload.keys.length := by simp [Object.size, Object.keys]
  have hsplit := List.length_eq_length_filter_add (l := payload.keys) fun key =>
    l.known.contains key
  have hknown := l.length_filter_known_le payload
  simp only [unknownKeys]
  omega

/-! ## The verdict -/

theorem verdict_of_within {l : KeyLimiter} {payload : Object} (h : payload.size ≤ l.limit) :
    (l.verdict payload).code = .valid ∧ (l.verdict payload).path = [] := by
  unfold verdict
  rw [if_pos h]
  exact ⟨rfl, rfl⟩

theorem verdict_of_beyond {l : KeyLimiter} {payload : Object} (h : l.limit < payload.size) :
    (l.verdict payload).code = .invalidKeyLimiter ∧
      (l.verdict payload).received = toString payload.size ∧
      (l.verdict payload).path = (l.unknownKeys payload).map .key := by
  unfold verdict
  rw [if_neg (Nat.not_le.mpr h)]
  exact ⟨rfl, rfl, rfl⟩

theorem path_of_failing {l : KeyLimiter} {payload : Object}
    (h : (l.verdict payload).code = .invalidKeyLimiter) :
    (l.verdict payload).path = (l.unknownKeys payload).map .key := by
  rcases Nat.lt_or_ge l.limit payload.size with hlt | hle
  · exact (verdict_of_beyond hlt).2.2
  · rw [(verdict_of_within hle).1] at h
    cases h

end KeyLimiter

namespace Template

theorem undeclared_unknownKeys (t : Template) (n : Nat) (payload : Object) :
    t.Undeclared payload ((KeyLimiter.mk n t.names).unknownKeys payload) where
  sublist := List.filter_sublist
  nodup := by
    have hd : payload.keys.Nodup := payload.distinct
    exact hd.filter _
  mem_iff := KeyLimiter.mem_unknownKeys_iff _ payload

theorem countsKeys_verdict (t : Template) (n : Nat) (payload : Object) :
    t.CountsKeys n payload ((KeyLimiter.mk n t.names).verdict payload) where
  within_iff := by
    constructor
    · rintro ⟨hc, -⟩
      by_contra hn
      obtain ⟨hcode, -, -⟩ := KeyLimiter.verdict_of_beyond (l := ⟨n, t.names⟩) (Nat.not_le.mp hn)
      rw [hcode] at hc
      cases hc
    · intro h
      exact KeyLimiter.verdict_of_within h
  beyond h := by
    obtain ⟨hcode, hreceived, -⟩ := KeyLimiter.verdict_of_beyond (l := ⟨n, t.names⟩) h
    exact ⟨hcode, hreceived⟩
  listed h := by
    obtain ⟨-, -, hpath⟩ := KeyLimiter.verdict_of_beyond (l := ⟨n, t.names⟩) h
    exact ⟨_, t.undeclared_unknownKeys n payload, hpath⟩
  size_le h := by
    obtain ⟨-, -, hpath⟩ := KeyLimiter.verdict_of_beyond (l := ⟨n, t.names⟩) h
    have hcount := (KeyLimiter.mk n t.names).size_le_known_add_unknown payload
    rw [hpath, List.length_map]
    simpa [names, size] using hcount

/-- More keys than fields leave one that is not declared. -/
theorem CountsKeys.exists_undeclared {t : Template} {payload : Object} {r : Verdict}
    (h : t.CountsKeys t.size payload r) (hlt : t.size < payload.size) :
    ∃ key ∈ payload.keys, key ∉ t.names ∧ PathSegment.key key ∈ r.path := by
  obtain ⟨keys, hkeys, hpath⟩ := h.listed hlt
  have hlength := h.size_le hlt
  rw [hpath, List.length_map] at hlength
  have hpos : 0 < keys.length := by omega
  obtain ⟨key, hkey⟩ := List.exists_mem_of_length_pos hpos
  obtain ⟨hin, hnot⟩ := (hkeys.mem_iff key).mp hkey
  refine ⟨key, hin, hnot, ?_⟩
  rw [hpath]
  exact List.mem_map_of_mem hkey

theorem CountsKeys.isValid_iff {t : Template} {n : Nat} {payload : Object} {r : Verdict}
    (h : t.CountsKeys n payload r) : r.isValid = true ↔ payload.size ≤ n := by
  constructor
  · intro hv
    by_contra hn
    rw [Verdict.isValid, (h.beyond (Nat.not_le.mp hn)).1] at hv
    cases hv
  · intro hn
    rw [Verdict.isValid, (h.within_iff.mpr hn).1]
    rfl

end Template

/-! ## Runs -/

/-- Whatever the mode, the first verdict is recorded. -/
theorem Mode.exists_recorded_cons (mode : Mode) (v : Verdict) (vs : List Verdict) :
    ∃ rest, mode.recorded (v :: vs) = v :: rest := by
  cases mode with
  | collectAll => exact ⟨vs, rfl⟩
  | failFast =>
    simp only [recorded, throughFailure]
    split
    · exact ⟨throughFailure vs, rfl⟩
    · exact ⟨[], rfl⟩

/-- Where the number of keys is limited, the first verdict that a run adds is on it: it fails
exactly beyond the limit, and lists the undeclared keys then. If as many keys are allowed as there
are fields, a failing one lists some, and a payload of declared keys alone passes. -/
theorem key_count_judged_first (t : Template) (limit : KeyLimit) (n : Nat)
    (hn : limit.resolve t.size = some n) (payload : Object) (mode : Mode) (o : Outcome) :
    ∃ r rest,
      ((Plan.build t limit).execute payload mode o).outcome.verdicts = o.verdicts ++ r :: rest ∧
      t.CountsKeys n payload r ∧
      (limit = .schemaFields →
        (r.isValid = false →
          ∃ key ∈ payload.keys, key ∉ t.names ∧ PathSegment.key key ∈ r.path) ∧
        ((∀ key ∈ payload.keys, key ∈ t.names) → r.isValid = true)) := by
  have hc := t.countsKeys_verdict n payload
  obtain ⟨rest, hrest⟩ := mode.exists_recorded_cons ((KeyLimiter.mk n t.names).verdict payload)
    (t.fields.flatMap fun f => f.2.block (payload.get? f.1) [.key f.1])
  refine ⟨_, rest, ?_, hc, ?_⟩
  · rw [Plan.execute_outcome, Outcome.verdicts_pushAll, Plan.verdicts_build, hn]
    exact congrArg (o.verdicts ++ ·) hrest
  · rintro rfl
    obtain rfl : t.size = n := Option.some.inj hn
    have hfail (hv : ((KeyLimiter.mk t.size t.names).verdict payload).isValid = false) :
        ∃ key ∈ payload.keys, key ∉ t.names ∧
          PathSegment.key key ∈ ((KeyLimiter.mk t.size t.names).verdict payload).path := by
      apply hc.exists_undeclared
      have hle := mt hc.isValid_iff.mpr (by simp [hv])
      exact Nat.not_le.mp hle
    refine ⟨hfail, fun hall => ?_⟩
    by_contra hv
    obtain ⟨key, hin, hnot, -⟩ := hfail (by simpa using hv)
    exact hnot (hall key hin)

/-- Three keys, of which one is declared, under the limit that the template sets; the fail-fast run
ends there. -/
theorem key_count_judged_first_surplus :
    let t : Template :=
      ⟨[("id", ⟨.scalar .integer, some true, none, false, none, none, none⟩)], by decide⟩
    let payload : Object := ⟨[("x", .null), ("id", .number (.integer 1)), ("y", .null)], by decide⟩
    KeyLimit.schemaFields.resolve t.size = some 1 ∧ 1 < payload.size ∧
      ∃ r rest,
        ((Plan.build t .schemaFields).execute payload .failFast .empty).outcome.verdicts =
          Outcome.empty.verdicts ++ r :: rest ∧
        t.CountsKeys 1 payload r ∧ r.isValid = false ∧
        ∃ key ∈ payload.keys, key ∉ t.names ∧ PathSegment.key key ∈ r.path := by
  intro t payload
  have hlt : 1 < payload.size := by decide
  obtain ⟨r, rest, hr, hc, hs⟩ :=
    key_count_judged_first t .schemaFields 1 rfl payload .failFast .empty
  have hv : r.isValid = false := by
    rw [Verdict.isValid, (hc.beyond hlt).1]
    rfl
  exact ⟨rfl, hlt, r, rest, hr, hc, hv, (hs rfl).1 hv⟩

end PayloadCheck
