import PayloadCheck.Proofs.Runs
import PayloadCheck.Proofs.Sessions

/-!
# Fail-fast runs

A fail-fast run is a collect-all run that stops: it adds the same verdicts up to the first failing
one, and answers with that one (`failFast_refines_collectAll`). So on a session `parse` succeeds
exactly if `safeParse` finds the payload valid, and with the same outcome.
-/

namespace PayloadCheck

/-! ## The first failing verdict -/

theorem throughFailure_of_valid {vs : List Verdict} (h : ∀ v ∈ vs, v.isValid = true) :
    throughFailure vs = vs := by
  induction vs with
  | nil => rfl
  | cons v rest ih =>
    rw [throughFailure, if_pos (h v List.mem_cons_self),
      ih fun w hw => h w (List.mem_cons_of_mem v hw)]

theorem throughFailure_of_first {vs : List Verdict} {k : Nat} {v : Verdict} (hk : vs[k]? = some v)
    (hv : v.isValid = false) (hb : ∀ w ∈ vs.take k, w.isValid = true) :
    throughFailure vs = vs.take k ++ [v] ∧ vs.find? (fun w => !w.isValid) = some v := by
  induction vs generalizing k with
  | nil => cases hk
  | cons w rest ih =>
    cases k with
    | zero =>
      obtain rfl : w = v := by simpa using hk
      simp [throughFailure, hv]
    | succ k =>
      have hw : w.isValid = true := hb w (by simp)
      obtain ⟨ht, hf⟩ := ih hk fun u hu => hb u (by simp [hu])
      simp [throughFailure, hw, ht, hf]

theorem Mode.failFast_failure?_eq_none_iff (vs : List Verdict) :
    failFast.failure? vs = none ↔ ∀ v ∈ vs, v.isValid = true := by
  simp [failure?]

/-! ## Runs -/

/-- How a fail-fast run ends where a collect-all run would add the verdicts `vs` to the outcome
`o`: at the first failing one, which it records last and no other failing one with it, or like the
collect-all run if there is none. -/
structure Run.StopsAtFailure (o : Outcome) (vs : List Verdict) (r : Run) : Prop where
  none_fails : (∀ v ∈ vs, v.isValid = true) → r.failure = none ∧ r.outcome = o.pushAll vs
  first_fails : ∀ k v, vs[k]? = some v → v.isValid = false → (∀ w ∈ vs.take k, w.isValid = true) →
    r.failure = some v ∧ r.outcome = o.pushAll (vs.take (k + 1)) ∧
      r.outcome.verdicts = o.verdicts ++ vs.take k ++ [v] ∧ r.outcome.errors = o.errors ++ [v]

theorem Plan.execute_stopsAtFailure (p : Plan) (payload : Object) (o : Outcome) :
    (p.execute payload .failFast o).StopsAtFailure o (p.verdicts payload) := by
  have ho := p.execute_outcome payload .failFast o
  have hf := p.execute_failure payload .failFast o
  refine ⟨fun h => ?_, fun k v hk hv hb => ?_⟩
  · rw [ho, hf, Mode.recorded, throughFailure_of_valid h]
    exact ⟨(Mode.failFast_failure?_eq_none_iff _).mpr h, rfl⟩
  · obtain ⟨ht, hfind⟩ := throughFailure_of_first hk hv hb
    have htake : (p.verdicts payload).take (k + 1) = (p.verdicts payload).take k ++ [v] := by
      rw [List.take_add_one, hk, Option.toList_some]
    have hpre : ((p.verdicts payload).take k).filter (fun w => !w.isValid) = [] :=
      List.filter_eq_nil_iff.mpr fun w hw => by simp [hb w hw]
    rw [ho, hf, Mode.recorded, ht, htake, Outcome.verdicts_pushAll, Outcome.errors_pushAll]
    refine ⟨hfind, rfl, (List.append_assoc ..).symm, ?_⟩
    rw [List.filter_append, hpre, List.nil_append, List.filter_cons_of_pos (by simp [hv])]
    rfl

/-! ## Sessions -/

/-- What a run comes to: its outcome, or the verdict that has ended it. -/
def Run.answer (r : Run) : Except RunError Outcome :=
  match r.failure with
  | none => .ok r.outcome
  | some v => .error (.failed v)

def Reply.mapError {ε ε' α : Type} (f : ε → ε') (r : Reply ε α) : Reply ε' α :=
  ⟨r.session, r.answer.mapError f, r.events⟩

namespace Session

theorem safeParse_answer {s : Session} {t : Template} (h : s.state ≠ .parsed)
    (ht : s.template = some t) (payload : Object) :
    (s.safeParse payload).answer =
      .ok ((s.currentPlan t).execute payload .collectAll s.outcome).outcome := by
  obtain ⟨hs, ha⟩ := run_of_template h ht payload .collectAll
  simp only [safeParse, hs, ha]
  rfl

theorem runIn_answer {s : Session} {t : Template} (h : s.state ≠ .parsed)
    (ht : s.template = some t) (payload : Object) (mode : Mode) :
    (s.runIn mode payload).answer =
      ((s.currentPlan t).execute payload mode s.outcome).answer := by
  obtain ⟨hs, ha⟩ := run_of_template h ht payload mode
  simp only [runIn, hs, ha, Run.answer]
  split <;> simp_all

/-- A collect-all run cannot fail, so nothing is lost where `safeParse` does not answer with it. -/
theorem runIn_collectAll (s : Session) (payload : Object) :
    s.runIn .collectAll payload = (s.safeParse payload).mapError .usage := by
  unfold runIn safeParse Reply.mapError
  rcases run_cases s payload .collectAll with ⟨e, he⟩ | ⟨t, h, ht⟩
  · rw [he]
    rfl
  · have ha := (run_of_template h ht payload .collectAll).2
    rw [Plan.execute_failure] at ha
    simp only [ha]
    rfl

theorem parse_answer_eq_ok {s : Session} {t : Template} (h : s.state ≠ .parsed)
    (ht : s.template = some t) (ho : s.outcome = .empty) (payload : Object) (o : Outcome) :
    (s.parse payload).answer = .ok o ↔
      (Outcome.empty.pushAll ((s.currentPlan t).verdicts payload)).isValid = true ∧
        o = Outcome.empty.pushAll ((s.currentPlan t).verdicts payload) := by
  rw [parse, runIn_answer h ht, Run.answer, ho, Plan.execute_outcome, Plan.execute_failure,
    Outcome.isValid_pushAll]
  generalize (s.currentPlan t).verdicts payload = vs
  cases hf : Mode.failFast.failure? vs with
  | none =>
    have hv := (Mode.failFast_failure?_eq_none_iff vs).mp hf
    simp only [Mode.recorded, throughFailure_of_valid hv, Except.ok.injEq]
    exact ⟨fun h => ⟨⟨rfl, hv⟩, h.symm⟩, fun h => h.2.symm⟩
  | some v =>
    have hm := List.mem_of_find?_eq_some hf
    have hv : v.isValid = false := by simpa using List.find?_some hf
    refine ⟨fun h => ?_, fun h => ?_⟩
    · cases h
    · rw [h.1.2 v hm] at hv
      cases hv

end Session

/-- Fail-fast runs against collect-all runs, of plans and of sessions. -/
theorem failFast_refines_collectAll :
    (∀ (p : Plan) (payload : Object) (o : Outcome), ∃ vs,
      (p.execute payload .collectAll o).failure = none ∧
      (p.execute payload .collectAll o).outcome = o.pushAll vs ∧
      (p.execute payload .failFast o).StopsAtFailure o vs) ∧
    (∀ (s : Session) (t : Template) (payload : Object), s.Reachable → s.state ≠ .parsed →
      s.template = some t → ∃ all, (s.safeParse payload).answer = .ok all ∧
        ∀ o, (s.parse payload).answer = .ok o ↔ all.isValid = true ∧ o = all) ∧
    ∀ (s : Session) (payload : Object), s.validate payload =
      match s.options.mode with
      | .collectAll => (s.safeParse payload).mapError .usage
      | .failFast => s.parse payload := by
  refine ⟨fun p payload o => ?_, fun s t payload hr h ht => ?_, fun s payload => ?_⟩
  · exact ⟨p.verdicts payload, p.execute_failure payload .collectAll o,
      p.execute_outcome payload .collectAll o, p.execute_stopsAtFailure payload o⟩
  · have ho := hr.outcome_eq h
    refine ⟨_, Session.safeParse_answer h ht payload, fun o => ?_⟩
    rw [ho, Plan.execute_outcome]
    exact Session.parse_answer_eq_ok h ht ho payload o
  · unfold Session.validate
    cases s.options.mode with
    | collectAll => exact s.runIn_collectAll payload
    | failFast => rfl

/-- A session whose plan is built, with a payload that lacks the required field. -/
theorem failFast_refines_collectAll_absent :
    let t : Template :=
      ⟨[("id", ⟨.scalar .integer, some true, none, false, none, none, none⟩)], by decide⟩
    let s := (History.after (.ofTemplate t .standard) [.process]).session
    s.Reachable ∧ s.state ≠ .parsed ∧ s.template = some t ∧
      ∃ all, (s.safeParse .empty).answer = .ok all ∧
        ∀ o, (s.parse .empty).answer = .ok o ↔ all.isValid = true ∧ o = all :=
  ⟨⟨_, _, rfl⟩, nofun, rfl, failFast_refines_collectAll.2.1 _ _ .empty ⟨_, _, rfl⟩ nofun rfl⟩

end PayloadCheck
