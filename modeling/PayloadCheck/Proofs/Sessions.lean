import PayloadCheck.Execution.Session

/-!
# Sessions over time

`Session.perform` does any `Operation` to a session. `Session.Step` says once what each does if it
is not refused, and a refused one does nothing (`perform_cases`). A `History` keeps, beside the
session, the runs made since the session last started over.

* `History.sound_after`: after any operations the plan is the one of the template and the key limit
  that the session has now, and the outcome is that of the one run made since the last start over,
  on an empty outcome, or empty if there is no such run;
* `sound_history`: hence a run that is not refused is the run of a fresh session.
-/

namespace PayloadCheck

/-- What can be done to a session. -/
inductive Operation where
  | setTemplate (t : Template)
  | setKeyLimit (limit : KeyLimit)
  | process
  | safeParse (payload : Object)
  | parse (payload : Object)
  | validate (payload : Object)
  | reset

/-- What an operation answers. -/
inductive Response where
  | done
  | planned (p : Plan)
  | judged (o : Outcome)
  | failed (v : Verdict)
  | refused (e : UsageError)

namespace Response

def ofAnswer {α : Type} (given : α → Response) : Except UsageError α → Response
  | .ok a => given a
  | .error e => refused e

def ofRun : Except RunError Outcome → Response
  | .ok o => judged o
  | .error (.failed v) => failed v
  | .error (.usage e) => refused e

def isRefusal : Response → Bool
  | refused _ => true
  | _ => false

end Response

namespace Operation

/-- The payload and the mode of the run that an operation asks for, if it does, where `mode` is
the one in the options of the session. -/
def run? (mode : Mode) : Operation → Option (Object × Mode)
  | safeParse payload => some (payload, .collectAll)
  | parse payload => some (payload, .failFast)
  | validate payload => some (payload, mode)
  | _ => none

/-- The operations after which a session may run again. -/
def startsOver : Operation → Bool
  | setTemplate _ => true
  | reset => true
  | _ => false

end Operation

/-! ## One operation -/

namespace Session

/-- The session after an operation, and what the operation answers. -/
def perform (s : Session) : Operation → Session × Response
  | .setTemplate t => (s.setTemplate t, .done)
  | .setKeyLimit limit =>
    ((s.setKeyLimit limit).session, .ofAnswer (fun _ => .done) (s.setKeyLimit limit).answer)
  | .process => (s.process.session, .ofAnswer .planned s.process.answer)
  | .safeParse payload =>
    ((s.safeParse payload).session, .ofAnswer .judged (s.safeParse payload).answer)
  | .parse payload => ((s.parse payload).session, .ofRun (s.parse payload).answer)
  | .validate payload => ((s.validate payload).session, .ofRun (s.validate payload).answer)
  | .reset => (s.reset.session, .ofAnswer (fun _ => .done) s.reset.answer)

/-- The plan that a run goes by: the one that is there, or else a new one. -/
def currentPlan (s : Session) (t : Template) : Plan :=
  s.plan.getD (Plan.build t s.options.keyLimit)

/-- What an operation does to a session if it is not refused. -/
inductive Step (s : Session) : Operation → Session → Prop
  | replaced (t : Template) : Step s (.setTemplate t) { s with template := some t }.clear
  | limited (limit : KeyLimit) (h : s.state ≠ .parsed) :
      Step s (.setKeyLimit limit)
        { s with options := s.options.withKeyLimit limit, plan := none, state := .unprocessed }
  | processed (t : Template) (ht : s.template = some t) :
      Step s .process
        { s with
          plan := some (s.currentPlan t)
          state := if s.state = .unprocessed then .processed else s.state }
  | ran (op : Operation) (payload : Object) (mode : Mode) (t : Template) (h : s.state ≠ .parsed)
      (ht : s.template = some t) (hop : op.run? s.options.mode = some (payload, mode)) :
      Step s op
        { s with
          plan := some (s.currentPlan t)
          outcome := ((s.currentPlan t).execute payload mode s.outcome).outcome
          state := .parsed }
  | restarted (t : Template) (ht : s.template = some t) : Step s .reset s.clear

theorem process_of_template {s : Session} {t : Template} (ht : s.template = some t) :
    s.process.session =
      { s with
        plan := some (s.currentPlan t)
        state := if s.state = .unprocessed then .processed else s.state } ∧
    s.process.answer = .ok (s.currentPlan t) := by
  unfold process currentPlan
  rw [ht]
  cases s.plan <;> simp

theorem run_of_parsed {s : Session} (h : s.state = .parsed) (payload : Object) (mode : Mode) :
    s.run payload mode = s.refuse .alreadyParsed := by
  simp [run, isParsed, h]

theorem run_of_no_template {s : Session} (h : s.state ≠ .parsed) (ht : s.template = none)
    (payload : Object) (mode : Mode) : s.run payload mode = s.refuse .noTemplate := by
  simp [run, isParsed, h, process, ht, refuse]

theorem run_of_template {s : Session} {t : Template} (h : s.state ≠ .parsed)
    (ht : s.template = some t) (payload : Object) (mode : Mode) :
    (s.run payload mode).session =
      { s with
        plan := some (s.currentPlan t)
        outcome := ((s.currentPlan t).execute payload mode s.outcome).outcome
        state := .parsed } ∧
    (s.run payload mode).answer =
      .ok ((s.currentPlan t).execute payload mode s.outcome).failure := by
  obtain ⟨hs, ha⟩ := process_of_template ht
  simp [run, isParsed, h, hs, ha]

/-- A run is refused or made. -/
theorem run_cases (s : Session) (payload : Object) (mode : Mode) :
    (∃ e, s.run payload mode = s.refuse e) ∨ ∃ t, s.state ≠ .parsed ∧ s.template = some t := by
  by_cases h : s.state = .parsed
  · exact .inl ⟨_, run_of_parsed h payload mode⟩
  · cases ht : s.template with
    | none => exact .inl ⟨_, run_of_no_template h ht payload mode⟩
    | some t => exact .inr ⟨t, h, rfl⟩

theorem ofRun_runIn_isRefusal (s : Session) (payload : Object) (mode : Mode) :
    (Response.ofRun (s.runIn mode payload).answer).isRefusal = true ↔
      ∃ e, (s.run payload mode).answer = .error e := by
  simp only [runIn]
  cases (s.run payload mode).answer with
  | error e => simp [Response.ofRun, Response.isRefusal]
  | ok failure => cases failure <;> simp [Response.ofRun, Response.isRefusal]

/-- The operations that ask for a run differ in their answers only. -/
theorem perform_run {s : Session} {op : Operation} {payload : Object} {mode : Mode}
    (hop : op.run? s.options.mode = some (payload, mode)) :
    (s.perform op).1 = (s.run payload mode).session ∧
      ((s.perform op).2.isRefusal = true ↔ ∃ e, (s.run payload mode).answer = .error e) := by
  cases op with
  | safeParse p =>
    cases hop
    refine ⟨rfl, ?_⟩
    simp only [perform, safeParse]
    cases (s.run payload .collectAll).answer <;>
      simp [Except.map, Response.ofAnswer, Response.isRefusal]
  | parse p =>
    cases hop
    exact ⟨rfl, ofRun_runIn_isRefusal s payload .failFast⟩
  | validate p =>
    cases hop
    exact ⟨rfl, ofRun_runIn_isRefusal s payload s.options.mode⟩
  | _ => cases hop

theorem perform_cases_of_run {s : Session} {op : Operation} {payload : Object} {mode : Mode}
    (hop : op.run? s.options.mode = some (payload, mode)) :
    ((s.perform op).2.isRefusal = true ∧ (s.perform op).1 = s) ∨
      ((s.perform op).2.isRefusal = false ∧ s.Step op (s.perform op).1) := by
  obtain ⟨hs, hr⟩ := perform_run hop
  rcases run_cases s payload mode with ⟨e, he⟩ | ⟨t, h, ht⟩
  · left
    rw [hs, hr, he]
    exact ⟨⟨e, rfl⟩, rfl⟩
  · right
    obtain ⟨hs', ha⟩ := run_of_template h ht payload mode
    rw [← Bool.not_eq_true, hr, ha, hs, hs']
    exact ⟨(fun ⟨_, he⟩ => nomatch he), .ran op payload mode t h ht hop⟩

/-- An operation is refused and changes nothing, or it takes its step. -/
theorem perform_cases (s : Session) (op : Operation) :
    ((s.perform op).2.isRefusal = true ∧ (s.perform op).1 = s) ∨
      ((s.perform op).2.isRefusal = false ∧ s.Step op (s.perform op).1) := by
  cases op with
  | setTemplate t => exact .inr ⟨rfl, .replaced t⟩
  | setKeyLimit limit =>
    by_cases h : s.state = .parsed
    · left
      simp [perform, setKeyLimit, isParsed, h, refuse, Response.ofAnswer, Response.isRefusal]
    · right
      have hs := Step.limited limit h
      simpa [perform, setKeyLimit, isParsed, h, Response.ofAnswer, Response.isRefusal] using hs
  | process =>
    cases ht : s.template with
    | none =>
      left
      simp [perform, process, ht, refuse, Response.ofAnswer, Response.isRefusal]
    | some t =>
      right
      obtain ⟨hs, ha⟩ := process_of_template ht
      simp only [perform, hs, ha]
      exact ⟨rfl, .processed t ht⟩
  | reset =>
    cases ht : s.template with
    | none =>
      left
      simp [perform, reset, ht, refuse, Response.ofAnswer, Response.isRefusal]
    | some t =>
      right
      simp only [perform, reset, ht]
      exact ⟨rfl, .restarted t ht⟩
  | safeParse payload => exact perform_cases_of_run rfl
  | parse payload => exact perform_cases_of_run rfl
  | validate payload => exact perform_cases_of_run rfl

end Session

/-! ## Histories -/

/-- How a session is made. -/
inductive Start where
  | empty
  | ofTemplate (t : Template) (options : Options)

def Start.session : Start → Session
  | empty => .empty
  | ofTemplate t options => .ofTemplate t options

/-- A session, with the runs it made since it last started over. -/
structure History where
  session : Session
  runs : List (Object × Mode)

namespace History

def step (h : History) (op : Operation) : History :=
  let (session, response) := h.session.perform op
  ⟨session,
    if response.isRefusal then h.runs
    else if op.startsOver then []
    else h.runs ++ (op.run? h.session.options.mode).toList⟩

def after (start : Start) (ops : List Operation) : History := ops.foldl step ⟨start.session, []⟩

/-- What holds of a session at any time, where `mode` is the mode it was made with. -/
structure Sound (mode : Mode) (h : History) : Prop where
  mode : h.session.options.mode = mode
  unplanned : h.session.state = .unprocessed → h.session.plan = none
  planned : h.session.state ≠ .unprocessed → ∃ t, h.session.template = some t ∧
    h.session.plan = some (Plan.build t h.session.options.keyLimit)
  unparsed : h.session.state ≠ .parsed → h.session.outcome = .empty ∧ h.runs = []
  parsed : h.session.state = .parsed → ∃ p payload mode, h.session.plan = some p ∧
    h.runs = [(payload, mode)] ∧ h.session.outcome = (p.execute payload mode .empty).outcome

/-- A session that is back in its first state is sound if nothing of a run is left. -/
theorem sound_unprocessed {mode : Mode} {h : History} (hm : h.session.options.mode = mode)
    (hs : h.session.state = .unprocessed) (hp : h.session.plan = none)
    (ho : h.session.outcome = .empty) (hr : h.runs = []) : h.Sound mode where
  mode := hm
  unplanned _ := hp
  planned hn := absurd hs hn
  unparsed _ := ⟨ho, hr⟩
  parsed hn := nomatch hs.symm.trans hn

theorem sound_start (start : Start) :
    Sound start.session.options.mode ⟨start.session, []⟩ := by
  cases start <;> exact sound_unprocessed rfl rfl rfl rfl rfl

/-- Processing leaves the first state, and no other. -/
theorem processedState_spec (state : SessionState) :
    (if state = .unprocessed then .processed else state) ≠ .unprocessed ∧
      ((if state = .unprocessed then .processed else state) = .parsed ↔ state = .parsed) := by
  cases state <;> decide

/-- There is no plan but that of the template and the key limit. -/
theorem Sound.currentPlan {mode : Mode} {h : History} (hs : h.Sound mode) {t : Template}
    (ht : h.session.template = some t) :
    h.session.currentPlan t = Plan.build t h.session.options.keyLimit := by
  unfold Session.currentPlan
  by_cases hu : h.session.state = .unprocessed
  · rw [hs.unplanned hu, Option.getD_none]
  · obtain ⟨t', ht', hp⟩ := hs.planned hu
    obtain rfl : t' = t := Option.some.inj (ht'.symm.trans ht)
    rw [hp, Option.getD_some]

theorem Sound.step {mode : Mode} {h : History} (hs : h.Sound mode) (op : Operation) :
    (h.step op).Sound mode := by
  rcases h.session.perform_cases op with ⟨hr, he⟩ | ⟨hr, hst⟩
  · have hh : h.step op = h := by simp [History.step, hr, he]
    rw [hh]
    exact hs
  · have hh : h.step op = ⟨(h.session.perform op).1, if op.startsOver then []
        else h.runs ++ (op.run? h.session.options.mode).toList⟩ := by simp [History.step, hr]
    rw [hh]
    generalize (h.session.perform op).1 = s' at hst
    cases hst with
    | replaced t => exact sound_unprocessed hs.mode rfl rfl rfl rfl
    | restarted t ht => exact sound_unprocessed hs.mode rfl rfl rfl rfl
    | limited limit hp =>
      obtain ⟨ho, hn⟩ := hs.unparsed hp
      refine sound_unprocessed hs.mode rfl rfl ho ?_
      simp [Operation.startsOver, Operation.run?, hn]
    | processed t ht =>
      have hr : h.runs ++ (Operation.process.run? h.session.options.mode).toList = h.runs :=
        List.append_nil _
      obtain ⟨hu, hd⟩ := processedState_spec h.session.state
      refine ⟨hs.mode, fun h => absurd h hu, fun _ => ⟨t, ht, by rw [hs.currentPlan ht]⟩, ?_, ?_⟩
      · intro hn
        obtain ⟨ho, hn⟩ := hs.unparsed (mt hd.mpr hn)
        exact ⟨ho, hr.trans hn⟩
      · intro hn
        obtain ⟨p, payload, m, hp, hn, ho⟩ := hs.parsed (hd.mp hn)
        exact ⟨p, payload, m, by simp [Session.currentPlan, hp], hr.trans hn, ho⟩
    | ran op payload mode t hp ht hop =>
      obtain ⟨ho, hn⟩ := hs.unparsed hp
      have hnew : op.startsOver = false := by cases op <;> first | rfl | cases hop
      simp only [hnew, hn, hop, hs.currentPlan ht, ho]
      exact ⟨hs.mode, nofun, fun _ => ⟨t, ht, rfl⟩, fun h => absurd rfl h,
        fun _ => ⟨_, payload, mode, rfl, rfl, rfl⟩⟩

theorem sound_foldl {mode : Mode} {h : History} (hs : h.Sound mode) (ops : List Operation) :
    (ops.foldl History.step h).Sound mode := by
  induction ops generalizing h with
  | nil => exact hs
  | cons op ops ih => exact ih (hs.step op)

theorem sound_after (start : Start) (ops : List Operation) :
    (after start ops).Sound start.session.options.mode :=
  sound_foldl (sound_start start) ops

end History

/-! ## Runs after a history -/

namespace Session

/-- Some operations lead to the session. -/
def Reachable (s : Session) : Prop := ∃ start ops, (History.after start ops).session = s

theorem Reachable.outcome_eq {s : Session} (hs : s.Reachable) (h : s.state ≠ .parsed) :
    s.outcome = .empty := by
  obtain ⟨start, ops, rfl⟩ := hs
  exact ((History.sound_after start ops).unparsed h).1

/-- Sessions with the same template and options that both are fit for a run make the same one. -/
theorem run_congr {s s' : Session} {t : Template} (h : s.state ≠ .parsed) (h' : s'.state ≠ .parsed)
    (ht : s.template = some t) (ht' : s'.template = some t) (ho : s.options = s'.options)
    (hp : s.currentPlan t = s'.currentPlan t) (hc : s.outcome = s'.outcome) (payload : Object)
    (mode : Mode) :
    (s.run payload mode).session = (s'.run payload mode).session ∧
      (s.run payload mode).answer = (s'.run payload mode).answer := by
  obtain ⟨hs, ha⟩ := run_of_template h ht payload mode
  obtain ⟨hs', ha'⟩ := run_of_template h' ht' payload mode
  rw [hs, hs', ha, ha', hp, hc, ht, ht', ho]
  exact ⟨rfl, rfl⟩

theorem perform_congr {s s' : Session} (ho : s.options = s'.options)
    (h : ∀ payload mode, (s.run payload mode).session = (s'.run payload mode).session ∧
      (s.run payload mode).answer = (s'.run payload mode).answer)
    {op : Operation} (hop : (op.run? s.options.mode).isSome) : s.perform op = s'.perform op := by
  cases op with
  | safeParse payload => simp only [perform, safeParse, h]
  | parse payload => simp only [perform, parse, runIn, h]
  | validate payload => simp only [perform, validate, runIn, h, ho]
  | _ => cases hop

/-- A run that is not refused finds a template and no earlier run. -/
theorem fit_of_not_refused {s : Session} {op : Operation} (hop : (op.run? s.options.mode).isSome)
    (hr : (s.perform op).2.isRefusal = false) :
    ∃ t, s.state ≠ .parsed ∧ s.template = some t := by
  obtain ⟨⟨payload, mode⟩, hop⟩ := Option.isSome_iff_exists.mp hop
  rcases run_cases s payload mode with ⟨e, he⟩ | hfit
  · have hrefused := (perform_run hop).2.mpr ⟨e, by rw [he]; rfl⟩
    rw [hr] at hrefused
    cases hrefused
  · exact hfit

end Session

/-- After any history a session is sound, and a run that is not refused is the one that a fresh
session with the same template and options would make. -/
theorem sound_history (start : Start) (ops : List Operation) :
    (History.after start ops).Sound start.session.options.mode ∧
      ∀ op, (op.run? start.session.options.mode).isSome →
        ((History.after start ops).session.perform op).2.isRefusal = false →
        ∃ t, (History.after start ops).session.template = some t ∧
          (History.after start ops).session.perform op =
            (Session.ofTemplate t (History.after start ops).session.options).perform op := by
  have hs := History.sound_after start ops
  refine ⟨hs, fun op hop hr => ?_⟩
  rw [← hs.mode] at hop
  obtain ⟨t, hp, ht⟩ := Session.fit_of_not_refused hop hr
  let fresh := Session.ofTemplate t (History.after start ops).session.options
  have ho : (History.after start ops).session.options = fresh.options := rfl
  exact ⟨t, ht, Session.perform_congr ho
    (Session.run_congr hp nofun ht rfl ho (hs.currentPlan ht) (hs.unparsed hp).1) hop⟩

/-- A second run after a reset, of a template with one required field. -/
theorem sound_history_reset :
    let t : Template :=
      ⟨[("id", ⟨.scalar .integer, some true, none, false, none, none, none⟩)], by decide⟩
    let h := History.after (.ofTemplate t .standard)
      [.setKeyLimit .disabled, .process, .parse .empty, .parse .empty, .reset]
    (h.session.perform (.validate .empty)).2.isRefusal = false ∧
      ∃ t', h.session.template = some t' ∧
        h.session.perform (.validate .empty) =
          (Session.ofTemplate t' h.session.options).perform (.validate .empty) :=
  ⟨rfl, (sound_history _ _).2 (.validate .empty) rfl rfl⟩

end PayloadCheck
