import PayloadCheck.Proofs.KeyCount
import PayloadCheck.Proofs.Isolation

/-!
# What the log says of checks

A run goes over the checks of a field until one decides it. `Plan.turns` lists the checks that it
comes to, with the verdicts that each adds, and the log has an event for each of them.

* `Plan.labels_execute`, `Plan.verdicts_execute_turns`: the events of a run are those of its turns,
  and its verdicts are those that the turns add;
* `Turn.Sound.contributes_iff`: a turn adds verdicts exactly if its check is asked about the value;
* `log_lists_turns`: so the log lists the checks that contribute exactly where no turn is passed
  over, and each further event stands for a check that is.
-/

namespace PayloadCheck

/-- A check that a run comes to, and the verdicts that it adds to the outcome. -/
structure Turn where
  field : String
  check : Check
  added : List Verdict

namespace Turn

def label (turn : Turn) : String × ConstraintKind := (turn.field, turn.check.kind)

def event (turn : Turn) : Event := .runningCheck turn.field turn.check.kind

def contributes (turn : Turn) : Bool := !turn.added.isEmpty

/-- A turn is on a field of the template and on a check that the field declares. What it adds is on
these, and it adds something exactly if the check is asked about what the payload holds there. -/
structure Sound (t : Template) (payload : Object) (turn : Turn) : Prop where
  declared : ∃ spec, (turn.field, spec) ∈ t.fields ∧ turn.check ∈ Check.ofSpec spec
  added : ∀ r ∈ turn.added, r.field? = some turn.field ∧ r.constraint? = some turn.check.kind
  contributes_iff : turn.contributes = true ↔ turn.check.Guarded (payload.get? turn.field)

end Turn

/-- The field and the check that an event announces. -/
def Event.label? : Event → Option (String × ConstraintKind)
  | runningCheck field kind => some (field, kind)
  | _ => none

/-! ## The turns of a run -/

/-- The checks of a field up to the one that decides it or ends the run. -/
def Check.turns (mode : Mode) (field : String) (value : Option Json) : List Check → List Turn
  | [] => []
  | c :: rest =>
    let (verdicts, decided) := c.contribution value [.key field]
    ⟨field, c, mode.recorded verdicts⟩ ::
      if (mode.failure? verdicts).isSome || decided then [] else turns mode field value rest

/-- The fields up to the one in which the run ends. -/
def FieldPlan.turns (mode : Mode) (payload : Object) : List FieldPlan → List Turn
  | [] => []
  | f :: rest =>
    Check.turns mode f.name (payload.get? f.name) f.checks ++
      if (mode.failure? (f.verdicts payload)).isSome then [] else turns mode payload rest

namespace Plan

def limitVerdicts (p : Plan) (payload : Object) : List Verdict :=
  (p.keyLimiter.map fun l => l.verdict payload).toList

def turns (p : Plan) (mode : Mode) (payload : Object) : List Turn :=
  if (mode.failure? (p.limitVerdicts payload)).isSome then []
  else FieldPlan.turns mode payload p.fields

end Plan

/-! ## Runs take their turns -/

namespace Run

/-- Between the two runs these turns were taken. -/
structure Takes (r : Run) (turns : List Turn) (s : Run) : Prop where
  events : s.events = r.events ++ turns.map Turn.event
  verdicts : s.outcome.verdicts = r.outcome.verdicts ++ turns.flatMap Turn.added

theorem takes_nil (r : Run) : Takes r [] r := ⟨by simp, by simp⟩

theorem Takes.append {r s u : Run} {xs ys : List Turn} (h : Takes r xs s) (h' : Takes s ys u) :
    Takes r (xs ++ ys) u where
  events := by rw [h'.events, h.events, List.map_append, List.append_assoc]
  verdicts := by rw [h'.verdicts, h.verdicts, List.flatMap_append, List.append_assoc]

theorem events_emit (mode : Mode) (r : Run) (vs : List Verdict) :
    (r.emit mode vs).events = r.events := by
  induction vs generalizing r with
  | nil => rfl
  | cons v rest ih =>
    rw [emit]
    split
    · rfl
    · exact ih _

/-- The event comes first, whatever the check has to say. -/
theorem emit_takes (mode : Mode) (field : String) (c : Check) (r : Run) (vs : List Verdict)
    (h : r.failure = none) :
    Takes r [⟨field, c, mode.recorded vs⟩] ((r.log (.runningCheck field c.kind)).emit mode vs) where
  events := by
    rw [events_emit]
    rfl
  verdicts := by
    rw [(emit_adds mode (r.log (.runningCheck field c.kind)) vs h).outcome,
      Outcome.verdicts_pushAll]
    simp [log]

theorem checks_takes (mode : Mode) (field : String) (value : Option Json) (r : Run)
    (cs : List Check) (h : r.failure = none) :
    Takes r (Check.turns mode field value cs) (r.checks mode field value cs) := by
  induction cs generalizing r with
  | nil => exact takes_nil r
  | cons c rest ih =>
    rcases hc : c.contribution value [.key field] with ⟨vs, decided⟩
    have hturn := emit_takes mode field c r vs h
    have hfail := (emit_adds mode (r.log (.runningCheck field c.kind)) vs h).failure
    simp only [checks, Check.turns, hc, hfail]
    split
    · exact hturn
    · rename_i hn
      have hgo : ((r.log (.runningCheck field c.kind)).emit mode vs).failure = none := by
        rw [hfail]
        simpa using (not_or.mp (mt (Bool.or_eq_true ..).mpr hn)).1
      exact hturn.append (ih _ hgo)

theorem fields_takes (mode : Mode) (payload : Object) (r : Run) (fs : List FieldPlan)
    (h : r.failure = none) :
    Takes r (FieldPlan.turns mode payload fs) (r.fields mode payload fs) := by
  induction fs generalizing r with
  | nil => exact takes_nil r
  | cons f rest ih =>
    have hturns := checks_takes mode f.name (payload.get? f.name) r f.checks h
    have hfail := (checks_adds mode f.name (payload.get? f.name) r f.checks h).failure
    rw [fields, FieldPlan.turns, FieldPlan.verdicts, hfail]
    split
    · rw [List.append_nil]
      exact hturns
    · rename_i hn
      refine hturns.append (ih _ ?_)
      rw [hfail]
      simpa using hn

/-- The event that closes a run announces no check. -/
theorem labels_close (r : Run) :
    r.close.events.filterMap Event.label? = r.events.filterMap Event.label? := by
  unfold close
  split <;> simp [log, Event.label?]

end Run

namespace Plan

/-- A run that has looked at the number of keys. -/
def limited (p : Plan) (payload : Object) (mode : Mode) (o : Outcome) : Run :=
  Run.emit mode ⟨o, [.executing p.fields.length payload.size mode], none⟩ (p.limitVerdicts payload)

theorem execute_eq_close (p : Plan) (payload : Object) (mode : Mode) (o : Outcome) :
    p.execute payload mode o =
      (if (p.limited payload mode o).failure.isSome then p.limited payload mode o
        else (p.limited payload mode o).fields mode payload p.fields).close := rfl

theorem execute_takes (p : Plan) (payload : Object) (mode : Mode) (o : Outcome) :
    Run.Takes (p.limited payload mode o) (p.turns mode payload)
      (if (p.limited payload mode o).failure.isSome then p.limited payload mode o
        else (p.limited payload mode o).fields mode payload p.fields) := by
  have hfail : (p.limited payload mode o).failure = mode.failure? (p.limitVerdicts payload) :=
    (Run.emit_adds mode _ (p.limitVerdicts payload) rfl).failure
  rw [turns, hfail]
  split
  · exact Run.takes_nil _
  · rename_i hn
    apply Run.fields_takes
    rw [hfail]
    simpa using hn

/-- The verdict on the number of keys is recorded in either mode. -/
theorem verdicts_limited (p : Plan) (payload : Object) (mode : Mode) (o : Outcome) :
    (p.limited payload mode o).outcome.verdicts = o.verdicts ++ p.limitVerdicts payload := by
  rw [limited, (Run.emit_adds mode _ (p.limitVerdicts payload) rfl).outcome,
    Outcome.verdicts_pushAll, limitVerdicts]
  cases p.keyLimiter with
  | none => cases mode <;> rfl
  | some l =>
    cases mode with
    | collectAll => rfl
    | failFast => simp [Mode.recorded, throughFailure]

theorem labels_execute (p : Plan) (payload : Object) (mode : Mode) (o : Outcome) :
    (p.execute payload mode o).events.filterMap Event.label? =
      (p.turns mode payload).map Turn.label := by
  have hlabel : Event.label? ∘ Turn.event = some ∘ Turn.label := rfl
  rw [execute_eq_close, Run.labels_close, (p.execute_takes payload mode o).events, limited,
    Run.events_emit, List.filterMap_append, List.filterMap_map, hlabel, ← List.filterMap_map,
    List.filterMap_some]
  rfl

theorem verdicts_execute_turns (p : Plan) (payload : Object) (mode : Mode) (o : Outcome) :
    (p.execute payload mode o).outcome.verdicts =
      o.verdicts ++ p.limitVerdicts payload ++ (p.turns mode payload).flatMap Turn.added := by
  rw [execute_eq_close, (Run.close_eq _).1, (p.execute_takes payload mode o).verdicts,
    verdicts_limited]

end Plan

/-! ## What turns add -/

theorem Check.elementwise_ne_nil (passes : Json → Bool) (offence : Json → Path → Verdict)
    (whole : Verdict) (items : List Json) (path : Path) :
    elementwise passes offence whole items path ≠ [] := by
  unfold elementwise
  dsimp only
  split
  · nofun
  · rename_i h
    simpa using h

/-- A check that is asked always answers. -/
theorem Check.verdicts_ne_nil (c : Check) (value : Option Json) (path : Path) :
    c.verdicts value path ≠ [] := by
  cases c with
  | type t =>
    simp only [verdicts, typeVerdicts]
    split
    · exact List.cons_ne_nil _ _
    · split <;> exact List.cons_ne_nil _ _
    · exact elementwise_ne_nil _ _ _ _ _
    · exact List.cons_ne_nil _ _
  | regex p =>
    simp only [verdicts, regexVerdicts]
    split
    · exact List.cons_ne_nil _ _
    · exact elementwise_ne_nil _ _ _ _ _
    · split <;> exact List.cons_ne_nil _ _
  | _ => exact List.cons_ne_nil _ _

theorem Mode.recorded_eq_nil_iff (mode : Mode) (vs : List Verdict) :
    mode.recorded vs = [] ↔ vs = [] := by
  cases vs with
  | nil => cases mode <;> simp [recorded, throughFailure]
  | cons v rest =>
    obtain ⟨left, h⟩ := mode.exists_recorded_cons v rest
    rw [h]
    simp

theorem Check.contribution_ne_nil_iff (c : Check) (value : Option Json) (path : Path) :
    (c.contribution value path).1 ≠ [] ↔ c.Guarded value := by
  rw [← contributionBy_verdicts]
  constructor
  · intro h
    by_contra hg
    exact h (contributionBy_of_not_guarded hg verdicts path)
  · intro hg
    rw [contributionBy_of_guarded hg]
    exact c.verdicts_ne_nil value path

/-- What a check contributes is on the key that it was given, and tells its constraint. -/
theorem Check.field?_of_mem_contribution {c : Check} {value : Option Json} {name : String}
    {r : Verdict} (h : r ∈ (c.contribution value [.key name]).1) :
    r.field? = some name ∧ r.constraint? = some c.kind := by
  refine ⟨?_, constraint?_of_mem_verdicts (guarded_of_mem_contribution h).2⟩
  cases value with
  | none => exact Verdict.field?_of_path (absent_of_contribution h).1
  | some v =>
    cases points_of_contribution h with
    | whole hp _ => exact Verdict.field?_of_path hp
    | element items i _ _ hp _ _ => exact Verdict.field?_of_path hp

/-- The turns of a field are on its checks, each as the check contributes. -/
theorem Check.mem_turns {mode : Mode} {field : String} {value : Option Json} {cs : List Check}
    {turn : Turn} (h : turn ∈ Check.turns mode field value cs) :
    turn.field = field ∧ turn.check ∈ cs ∧
      turn.added = mode.recorded (turn.check.contribution value [.key field]).1 := by
  induction cs with
  | nil => cases h
  | cons c rest ih =>
    rcases hc : c.contribution value [.key field] with ⟨vs, decided⟩
    simp only [turns, hc] at h
    rcases List.mem_cons.mp h with rfl | h
    · exact ⟨rfl, List.mem_cons_self, by rw [hc]⟩
    · split at h
      · cases h
      · obtain ⟨hf, hm, ha⟩ := ih h
        exact ⟨hf, List.mem_cons_of_mem c hm, ha⟩

theorem FieldPlan.mem_turns {mode : Mode} {payload : Object} {fs : List FieldPlan} {turn : Turn}
    (h : turn ∈ FieldPlan.turns mode payload fs) :
    ∃ f ∈ fs, turn ∈ Check.turns mode f.name (payload.get? f.name) f.checks := by
  induction fs with
  | nil => cases h
  | cons f rest ih =>
    rw [turns] at h
    rcases List.mem_append.mp h with h | h
    · exact ⟨f, List.mem_cons_self, h⟩
    · split at h
      · cases h
      · obtain ⟨g, hg, h⟩ := ih h
        exact ⟨g, List.mem_cons_of_mem f hg, h⟩

theorem Turn.sound_of_mem_turns {t : Template} {limit : KeyLimit} {payload : Object} {mode : Mode}
    {turn : Turn} (h : turn ∈ (Plan.build t limit).turns mode payload) :
    turn.Sound t payload := by
  rw [Plan.turns] at h
  split at h
  · cases h
  · obtain ⟨f, hf, h⟩ := FieldPlan.mem_turns h
    obtain ⟨⟨name, spec⟩, hspec, rfl⟩ := List.mem_map.mp hf
    obtain ⟨rfl, hc, ha⟩ := Check.mem_turns h
    refine ⟨⟨spec, hspec, hc⟩, fun r hr => ?_, ?_⟩
    · rw [ha] at hr
      exact Check.field?_of_mem_contribution (Mode.mem_of_mem_recorded hr)
    · rw [← Check.contribution_ne_nil_iff _ _ [.key turn.field], contributes, ha]
      simp [Mode.recorded_eq_nil_iff]

/-! ## The log against the outcome -/

/-- Of a list of turns those that contribute are all of them or fewer. -/
theorem Turn.map_label_filter_iff (turns : List Turn) :
    turns.map label = (turns.filter contributes).map label ↔
      ∀ turn ∈ turns, turn.contributes = true := by
  constructor
  · intro h
    have hlength := congrArg List.length h
    rw [List.length_map, List.length_map] at hlength
    exact List.length_filter_eq_length_iff.mp hlength.symm
  · intro h
    rw [List.filter_eq_self.mpr h]

/-- The log of a run has an event for each of its turns, and its verdicts are, behind the one on the
number of keys, those that the turns add. The turns that add some are those whose checks are asked,
so the log lists the checks that contribute, and no others, exactly where every check that the run
comes to is asked. -/
theorem log_lists_turns (t : Template) (limit : KeyLimit) (payload : Object) (mode : Mode)
    (o : Outcome) :
    let p := Plan.build t limit
    let run := p.execute payload mode o
    let turns := p.turns mode payload
    run.events.filterMap Event.label? = turns.map Turn.label ∧
      run.outcome.verdicts =
        o.verdicts ++ p.limitVerdicts payload ++ turns.flatMap Turn.added ∧
      (∀ turn ∈ turns, turn.Sound t payload) ∧
      (run.events.filterMap Event.label? = (turns.filter Turn.contributes).map Turn.label ↔
        ∀ turn ∈ turns, turn.check.Guarded (payload.get? turn.field)) := by
  intro p run turns
  have hlabels := p.labels_execute payload mode o
  have hsound : ∀ turn ∈ turns, turn.Sound t payload := fun _ => Turn.sound_of_mem_turns
  refine ⟨hlabels, p.verdicts_execute_turns payload mode o, hsound, ?_⟩
  rw [hlabels, Turn.map_label_filter_iff]
  exact forall₂_congr fun turn hturn => (hsound turn hturn).contributes_iff

/-- A field that is absent and need not be there: the log announces the check of its type, which
adds nothing. -/
theorem event_without_verdict :
    let schema : Object := ⟨[("n", .object [("type", .string "integer")])], by decide⟩
    ∃ t, Template.compile schema = .ok t ∧
      let run := (Plan.build t .schemaFields).execute .empty .collectAll .empty
      Event.runningCheck "n" .type ∈ run.events ∧
        ∀ r ∈ run.outcome.verdicts, r.field? ≠ some "n" :=
  ⟨_, rfl, by decide⟩

end PayloadCheck
