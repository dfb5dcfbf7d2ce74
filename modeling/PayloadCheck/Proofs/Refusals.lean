import PayloadCheck.Proofs.Sessions

/-!
# Refused operations

`Session.Misuse` says which operations are out of place in a session, and with which error.

* `perform_eq_refused_iff`: these are the operations that are refused;
* `exists_restart_of_runs`: between two runs a session has started over;
* `misuse_exact_and_harmless`: both for sessions that operations lead to, with what is left behind
  by a refusal and by a run that ends early.
-/

namespace PayloadCheck

namespace Response

/-- A run was made, to its end or up to a failing verdict. -/
def isRun : Response → Bool
  | judged _ => true
  | failed _ => true
  | _ => false

theorem isRefusal_eq_false_of_isRun {r : Response} (h : r.isRun = true) : r.isRefusal = false := by
  cases r with
  | refused e => cases h
  | _ => rfl

end Response

namespace Session

/-- An operation that is out of place, and the error that says why. -/
inductive Misuse (s : Session) : Operation → UsageError → Prop
  | secondRun (op : Operation) (hop : (op.run? s.options.mode).isSome) (h : s.state = .parsed) :
      Misuse s op .alreadyParsed
  | runWithoutTemplate (op : Operation) (hop : (op.run? s.options.mode).isSome)
      (h : s.template = none) : Misuse s op .noTemplate
  | lateKeyLimit (limit : KeyLimit) (h : s.state = .parsed) :
      Misuse s (.setKeyLimit limit) .alreadyParsed
  | processWithoutTemplate (h : s.template = none) : Misuse s .process .noTemplate
  | resetWithoutTemplate (h : s.template = none) : Misuse s .reset .noTemplate

/-- The session after operations, whether they were refused or not. -/
def after (s : Session) (ops : List Operation) : Session :=
  ops.foldl (fun s op => (s.perform op).1) s

/-! ## Runs that are refused -/

theorem run_eq_error_iff {s : Session} (hs : s.state = .parsed → s.template ≠ none)
    (payload : Object) (mode : Mode) (e : UsageError) :
    (s.run payload mode).answer = .error e ↔
      (e = .alreadyParsed ∧ s.state = .parsed) ∨ (e = .noTemplate ∧ s.template = none) := by
  by_cases h : s.state = .parsed
  · rw [run_of_parsed h]
    simp [refuse, h, hs h, eq_comm]
  · cases ht : s.template with
    | none =>
      rw [run_of_no_template h ht]
      simp [refuse, h, eq_comm]
    | some t =>
      rw [(run_of_template h ht payload mode).2]
      simp [h]

theorem ofRun_runIn_eq_refused_iff (s : Session) (payload : Object) (mode : Mode)
    (e : UsageError) :
    Response.ofRun (s.runIn mode payload).answer = .refused e ↔
      (s.run payload mode).answer = .error e := by
  simp only [runIn]
  cases (s.run payload mode).answer with
  | error e' => simp [Response.ofRun]
  | ok failure => cases failure <;> simp [Response.ofRun]

theorem perform_eq_refused_of_run {s : Session} {op : Operation} {payload : Object} {mode : Mode}
    (hop : op.run? s.options.mode = some (payload, mode)) (e : UsageError) :
    (s.perform op).2 = .refused e ↔ (s.run payload mode).answer = .error e := by
  cases op with
  | safeParse p =>
    cases hop
    simp only [perform, safeParse]
    cases (s.run payload .collectAll).answer <;> simp [Except.map, Response.ofAnswer]
  | parse p =>
    cases hop
    exact ofRun_runIn_eq_refused_iff s payload .failFast e
  | validate p =>
    cases hop
    exact ofRun_runIn_eq_refused_iff s payload s.options.mode e
  | _ => cases hop

theorem misuse_run_iff {s : Session} {op : Operation} (hop : (op.run? s.options.mode).isSome)
    (e : UsageError) :
    s.Misuse op e ↔
      (e = .alreadyParsed ∧ s.state = .parsed) ∨ (e = .noTemplate ∧ s.template = none) := by
  constructor
  · intro h
    cases h with
    | secondRun _ _ h => exact .inl ⟨rfl, h⟩
    | runWithoutTemplate _ _ h => exact .inr ⟨rfl, h⟩
    | lateKeyLimit _ h => exact .inl ⟨rfl, h⟩
    | processWithoutTemplate h => exact .inr ⟨rfl, h⟩
    | resetWithoutTemplate h => exact .inr ⟨rfl, h⟩
  · rintro (⟨rfl, h⟩ | ⟨rfl, h⟩)
    · exact .secondRun op hop h
    · exact .runWithoutTemplate op hop h

/-! ## Operations that are refused -/

theorem perform_setKeyLimit_eq_refused_iff (s : Session) (limit : KeyLimit) (e : UsageError) :
    (s.perform (.setKeyLimit limit)).2 = .refused e ↔ e = .alreadyParsed ∧ s.state = .parsed := by
  by_cases h : s.state = .parsed <;>
    simp [perform, setKeyLimit, isParsed, h, refuse, Response.ofAnswer, eq_comm]

theorem perform_process_eq_refused_iff (s : Session) (e : UsageError) :
    (s.perform .process).2 = .refused e ↔ e = .noTemplate ∧ s.template = none := by
  cases ht : s.template with
  | none => simp [perform, process, ht, refuse, Response.ofAnswer, eq_comm]
  | some t =>
    simp only [perform, (process_of_template ht).2]
    simp [Response.ofAnswer]

theorem perform_reset_eq_refused_iff (s : Session) (e : UsageError) :
    (s.perform .reset).2 = .refused e ↔ e = .noTemplate ∧ s.template = none := by
  cases ht : s.template <;> simp [perform, reset, ht, refuse, Response.ofAnswer, eq_comm]

/-- Where a session with a run has a template, an operation is refused exactly if it is misused. -/
theorem perform_eq_refused_iff {s : Session} (hs : s.state = .parsed → s.template ≠ none)
    (op : Operation) (e : UsageError) : (s.perform op).2 = .refused e ↔ s.Misuse op e := by
  have hrun {payload : Object} {mode : Mode} {op : Operation}
      (hop : op.run? s.options.mode = some (payload, mode)) :
      (s.perform op).2 = .refused e ↔ s.Misuse op e := by
    have hsome : (op.run? s.options.mode).isSome := by rw [hop]; rfl
    rw [perform_eq_refused_of_run hop, run_eq_error_iff hs, misuse_run_iff hsome]
  cases op with
  | setTemplate t =>
    refine iff_of_false (fun h => ?_) (fun h => ?_)
    · cases h
    · cases h with
      | secondRun _ hop _ => cases hop
      | runWithoutTemplate _ hop _ => cases hop
  | setKeyLimit limit =>
    rw [perform_setKeyLimit_eq_refused_iff]
    constructor
    · rintro ⟨rfl, h⟩
      exact .lateKeyLimit limit h
    · intro h
      cases h with
      | lateKeyLimit _ h => exact ⟨rfl, h⟩
      | secondRun _ hop _ => cases hop
      | runWithoutTemplate _ hop _ => cases hop
  | process =>
    rw [perform_process_eq_refused_iff]
    constructor
    · rintro ⟨rfl, h⟩
      exact .processWithoutTemplate h
    · intro h
      cases h with
      | processWithoutTemplate h => exact ⟨rfl, h⟩
      | secondRun _ hop _ => cases hop
      | runWithoutTemplate _ hop _ => cases hop
  | reset =>
    rw [perform_reset_eq_refused_iff]
    constructor
    · rintro ⟨rfl, h⟩
      exact .resetWithoutTemplate h
    · intro h
      cases h with
      | resetWithoutTemplate h => exact ⟨rfl, h⟩
      | secondRun _ hop _ => cases hop
      | runWithoutTemplate _ hop _ => cases hop
  | safeParse payload => exact hrun rfl
  | parse payload => exact hrun rfl
  | validate payload => exact hrun rfl

theorem perform_of_refused {s : Session} {op : Operation} {e : UsageError}
    (h : (s.perform op).2 = .refused e) : (s.perform op).1 = s := by
  rcases s.perform_cases op with ⟨-, hs⟩ | ⟨hr, -⟩
  · exact hs
  · rw [h] at hr
    cases hr

/-! ## What runs leave behind -/

theorem run?_of_isRun {s : Session} {op : Operation} (h : (s.perform op).2.isRun = true) :
    (op.run? s.options.mode).isSome := by
  cases op with
  | safeParse payload => rfl
  | parse payload => rfl
  | validate payload => rfl
  | setTemplate t => cases h
  | setKeyLimit limit =>
    simp only [perform] at h
    cases ha : (s.setKeyLimit limit).answer <;> rw [ha] at h <;> cases h
  | process =>
    simp only [perform] at h
    cases ha : s.process.answer <;> rw [ha] at h <;> cases h
  | reset =>
    simp only [perform] at h
    cases ha : s.reset.answer <;> rw [ha] at h <;> cases h

/-- A run is the first, and after it there is no other. -/
theorem state_of_isRun {s : Session} {op : Operation} (h : (s.perform op).2.isRun = true) :
    s.state ≠ .parsed ∧ (s.perform op).1.state = .parsed := by
  have hop := run?_of_isRun h
  rcases s.perform_cases op with ⟨hr, -⟩ | ⟨-, hst⟩
  · rw [Response.isRefusal_eq_false_of_isRun h] at hr
    cases hr
  · generalize (s.perform op).1 = s' at hst
    cases hst with
    | ran _ payload mode t hp _ _ => exact ⟨hp, rfl⟩
    | replaced t => cases hop
    | limited limit _ => cases hop
    | processed t _ => cases hop
    | restarted t _ => cases hop

/-- Only by starting over does a session lose the state after a run. -/
theorem state_perform_of_parsed {s : Session} (h : s.state = .parsed) {op : Operation}
    (hr : ¬ (op.startsOver = true ∧ (s.perform op).2 = .done)) :
    (s.perform op).1.state = .parsed := by
  rcases s.perform_cases op with ⟨-, hs⟩ | ⟨hd, hst⟩
  · rw [hs]
    exact h
  · cases op with
    | setTemplate t => exact absurd ⟨rfl, rfl⟩ hr
    | reset =>
      refine absurd ⟨rfl, ?_⟩ hr
      simp only [perform] at hd ⊢
      cases ha : s.reset.answer with
      | ok u => rfl
      | error e => rw [ha] at hd; cases hd
    | process =>
      generalize (s.perform .process).1 = s' at hst
      cases hst with
      | processed t _ => simp [h]
      | ran _ _ _ _ hp _ _ => exact absurd h hp
    | _ =>
      -- The steps that are left are not open to a session that has made a run.
      generalize (s.perform _).1 = s' at hst
      cases hst <;> exact absurd h (by assumption)

/-- A session that has made a run makes another only behind an operation that starts over. -/
theorem exists_restart {s : Session} (h : s.state = .parsed) {ops : List Operation}
    {op : Operation} (hr : ((s.after ops).perform op).2.isRun = true) :
    ∃ before again rest, ops = before ++ again :: rest ∧ again.startsOver = true ∧
      ((s.after before).perform again).2 = .done := by
  induction ops generalizing s with
  | nil => exact absurd h (state_of_isRun hr).1
  | cons first ops ih =>
    -- Either the first operation starts over, or the session still has its run behind it.
    by_cases hf : first.startsOver = true ∧ (s.perform first).2 = .done
    · exact ⟨[], first, ops, rfl, hf⟩
    · obtain ⟨before, again, rest, rfl, ha, hd⟩ := ih (state_perform_of_parsed h hf) hr
      exact ⟨first :: before, again, rest, rfl, ha, hd⟩

theorem exists_restart_of_runs {s : Session} {op : Operation}
    (h : (s.perform op).2.isRun = true) {ops : List Operation} {op' : Operation}
    (h' : ((s.after (op :: ops)).perform op').2.isRun = true) :
    ∃ before again rest, ops = before ++ again :: rest ∧ again.startsOver = true ∧
      ((s.after (op :: before)).perform again).2 = .done :=
  exists_restart (state_of_isRun h).2 h'

theorem Reachable.template_of_parsed {s : Session} (hs : s.Reachable) (h : s.state = .parsed) :
    s.template ≠ none := by
  obtain ⟨start, ops, rfl⟩ := hs
  obtain ⟨t, ht, -⟩ := (History.sound_after start ops).planned (by rw [h]; nofun)
  rw [ht]
  nofun

end Session

/-- Misuse is refused and nothing else is, and a refusal changes nothing. A run that ends early is
a run like any other, and no run follows on another without a new start. -/
theorem misuse_exact_and_harmless {s : Session} (hs : s.Reachable) :
    ¬ (s.state = .parsed ∧ s.template = none) ∧
      (∀ op e, (s.perform op).2 = .refused e ↔ s.Misuse op e) ∧
      (∀ op e, (s.perform op).2 = .refused e → (s.perform op).1 = s) ∧
      (∀ op v, (s.perform op).2 = .failed v → (s.perform op).1.state = .parsed) ∧
      ∀ op ops op', (s.perform op).2.isRun = true →
        ((s.after (op :: ops)).perform op').2.isRun = true →
        ∃ before again rest, ops = before ++ again :: rest ∧ again.startsOver = true ∧
          ((s.after (op :: before)).perform again).2 = .done := by
  refine ⟨fun h => hs.template_of_parsed h.1 h.2, fun op e => ?_, fun op e => ?_, fun op v h => ?_,
    fun op ops op' => ?_⟩
  · exact Session.perform_eq_refused_iff hs.template_of_parsed op e
  · exact Session.perform_of_refused
  · exact (Session.state_of_isRun (by rw [h]; rfl)).2
  · exact fun h h' => Session.exists_restart_of_runs h h'

/-- A session whose run ended early: it cannot run again before its reset. -/
theorem misuse_exact_and_harmless_aborted :
    let t : Template :=
      ⟨[("id", ⟨.scalar .integer, some true, none, false, none, none, none⟩)], by decide⟩
    let s := (History.after (.ofTemplate t .standard) [.process, .parse .empty]).session
    s.state = .parsed ∧ s.Reachable ∧ ¬ (s.state = .parsed ∧ s.template = none) ∧
      (∀ op e, (s.perform op).2 = .refused e ↔ s.Misuse op e) ∧
      (∀ op e, (s.perform op).2 = .refused e → (s.perform op).1 = s) ∧
      (∀ op v, (s.perform op).2 = .failed v → (s.perform op).1.state = .parsed) ∧
      ∀ op ops op', (s.perform op).2.isRun = true →
        ((s.after (op :: ops)).perform op').2.isRun = true →
        ∃ before again rest, ops = before ++ again :: rest ∧ again.startsOver = true ∧
          ((s.after (op :: before)).perform again).2 = .done := by
  intro t s
  have hs : s.Reachable := ⟨_, _, rfl⟩
  exact ⟨rfl, hs, misuse_exact_and_harmless hs⟩

end PayloadCheck
