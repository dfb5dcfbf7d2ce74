import PayloadCheck.Execution.Run

/-!
# The verdicts of a run

`Plan.verdicts` lists what a plan has to say about a payload, without running it. The runs are
tied to that list:

* `execute_outcome`: a run adds to its outcome what its mode records of the list, all of it in
  collect-all mode, and in fail-fast mode the part that ends with the first failing verdict;
* `execute_failure`: the verdict that ends a run early is the first failing one of the list, and
  in collect-all mode there is none.
-/

namespace PayloadCheck

/-! ## Pushing verdicts -/

namespace Outcome

/-- Pushes verdicts in their order. -/
def pushAll (o : Outcome) (vs : List Verdict) : Outcome := vs.foldl push o

@[simp] theorem pushAll_nil (o : Outcome) : o.pushAll [] = o := rfl

@[simp] theorem pushAll_cons (o : Outcome) (v : Verdict) (vs : List Verdict) :
    o.pushAll (v :: vs) = (o.push v).pushAll vs := rfl

theorem pushAll_append (o : Outcome) (vs ws : List Verdict) :
    o.pushAll (vs ++ ws) = (o.pushAll vs).pushAll ws := by
  unfold pushAll
  rw [List.foldl_append]

theorem verdicts_push (o : Outcome) (v : Verdict) : (o.push v).verdicts = o.verdicts ++ [v] := by
  unfold push
  split <;> rfl

theorem errors_push (o : Outcome) (v : Verdict) :
    (o.push v).errors = o.errors ++ if v.isValid then [] else [v] := by
  unfold push
  split <;> simp

theorem verdicts_pushAll (o : Outcome) (vs : List Verdict) :
    (o.pushAll vs).verdicts = o.verdicts ++ vs := by
  induction vs generalizing o with
  | nil => simp
  | cons v rest ih => simp [ih, verdicts_push]

theorem errors_pushAll (o : Outcome) (vs : List Verdict) :
    (o.pushAll vs).errors = o.errors ++ vs.filter fun v => !v.isValid := by
  induction vs generalizing o with
  | nil => simp
  | cons v rest ih =>
    rw [pushAll_cons, ih, errors_push]
    cases h : v.isValid <;> simp [h]

theorem valids_push (o : Outcome) (v : Verdict) :
    (o.push v).valids = o.valids ++ if v.isValid then [v] else [] := by
  unfold push
  split <;> simp

theorem valids_pushAll (o : Outcome) (vs : List Verdict) :
    (o.pushAll vs).valids = o.valids ++ vs.filter fun v => v.isValid := by
  induction vs generalizing o with
  | nil => simp
  | cons v rest ih =>
    rw [pushAll_cons, ih, valids_push]
    cases h : v.isValid <;> simp [h]

theorem isValid_pushAll (o : Outcome) (vs : List Verdict) :
    (o.pushAll vs).isValid = true ↔ o.isValid = true ∧ ∀ v ∈ vs, v.isValid = true := by
  unfold isValid
  rw [errors_pushAll]
  simp

end Outcome

/-! ## What a mode records -/

/-- The verdicts up to the first failing one, with it. -/
def throughFailure : List Verdict → List Verdict
  | [] => []
  | v :: rest => if v.isValid then v :: throughFailure rest else [v]

namespace Mode

/-- What a run in the mode records of verdicts that come one after another. -/
def recorded : Mode → List Verdict → List Verdict
  | collectAll, vs => vs
  | failFast, vs => throughFailure vs

/-- The verdict that ends a run in the mode. -/
def failure? : Mode → List Verdict → Option Verdict
  | collectAll, _ => none
  | failFast, vs => vs.find? fun v => !v.isValid

theorem failure?_append (m : Mode) (vs ws : List Verdict) :
    m.failure? (vs ++ ws) = (m.failure? vs).or (m.failure? ws) := by
  cases m with
  | collectAll => rfl
  | failFast => exact List.find?_append

theorem recorded_append (m : Mode) (vs ws : List Verdict) :
    m.recorded (vs ++ ws) =
      m.recorded vs ++ if (m.failure? vs).isSome then [] else m.recorded ws := by
  cases m with
  | collectAll => rfl
  | failFast =>
    induction vs with
    | nil => rfl
    | cons v rest ih =>
      simp only [recorded, failure?] at ih ⊢
      cases hv : v.isValid with
      | true => simpa [throughFailure, hv] using ih
      | false => simp [throughFailure, hv]

end Mode

/-! ## The verdicts of a plan -/

/-- The verdicts of checks that run one after another, up to the check that decides the field. -/
def Check.sequence (value : Option Json) (path : Path) : List Check → List Verdict
  | [] => []
  | c :: rest =>
    (c.contribution value path).1 ++
      if (c.contribution value path).2 then [] else sequence value path rest

def FieldPlan.verdicts (f : FieldPlan) (payload : Object) : List Verdict :=
  Check.sequence (payload.get? f.name) [.key f.name] f.checks

def Plan.verdicts (p : Plan) (payload : Object) : List Verdict :=
  (p.keyLimiter.map fun l => l.verdict payload).toList ++
    p.fields.flatMap fun f => f.verdicts payload

/-! ## Runs -/

namespace Run

/-- A run that had the outcome `o` has come past the verdicts `vs`. -/
structure Adds (mode : Mode) (o : Outcome) (vs : List Verdict) (r : Run) : Prop where
  outcome : r.outcome = o.pushAll (mode.recorded vs)
  failure : r.failure = mode.failure? vs

theorem adds_nil (mode : Mode) (r : Run) (h : r.failure = none) : Adds mode r.outcome [] r := by
  cases mode <;> exact ⟨rfl, h⟩

/-- A run goes on to further verdicts unless a failure has ended it. -/
theorem Adds.append {mode : Mode} {o : Outcome} {vs ws : List Verdict} {r s : Run}
    (hr : Adds mode o vs r) (hs : r.failure = none → Adds mode r.outcome ws s) :
    Adds mode o (vs ++ ws) (if r.failure.isSome then r else s) := by
  cases h : r.failure with
  | none =>
    have hv : mode.failure? vs = none := by rw [← hr.failure, h]
    refine ⟨?_, ?_⟩
    · rw [Mode.recorded_append, hv, Outcome.pushAll_append, ← hr.outcome]
      exact (hs h).outcome
    · rw [Mode.failure?_append, hv, Option.none_or]
      exact (hs h).failure
  | some v =>
    have hv : mode.failure? vs = some v := by rw [← hr.failure, h]
    refine ⟨?_, ?_⟩
    · rw [Mode.recorded_append, hv]
      simpa using hr.outcome
    · rw [Mode.failure?_append, hv, Option.some_or]
      exact h

theorem emit_adds (mode : Mode) (r : Run) (vs : List Verdict) (h : r.failure = none) :
    Adds mode r.outcome vs (r.emit mode vs) := by
  induction vs generalizing r with
  | nil => exact adds_nil mode r h
  | cons v rest ih =>
    have hr := ih { r with outcome := r.outcome.push v } h
    unfold emit
    cases mode with
    | collectAll => simpa using ⟨hr.outcome, hr.failure⟩
    | failFast =>
      cases hv : v.isValid with
      | true =>
        refine ⟨?_, ?_⟩
        · simpa [Mode.recorded, throughFailure, hv] using hr.outcome
        · simpa [Mode.failure?, hv] using hr.failure
      | false =>
        refine ⟨?_, ?_⟩
        · simp [Mode.recorded, throughFailure, hv]
        · simp [Mode.failure?, hv]

/-- A failure ends the field, and so does a check that decides it. -/
theorem checks_cons {mode : Mode} {field : String} {value : Option Json} {c : Check}
    {vs : List Verdict} {decided : Bool} (hc : c.contribution value [.key field] = (vs, decided))
    (r : Run) (rest : List Check) :
    r.checks mode field value (c :: rest) =
      let s := (r.log (.runningCheck field c.kind)).emit mode vs
      if s.failure.isSome then s else if decided then s else s.checks mode field value rest := by
  simp only [checks, hc, Bool.or_eq_true]
  split <;> split <;> simp_all

theorem checks_adds (mode : Mode) (field : String) (value : Option Json) (r : Run)
    (cs : List Check) (h : r.failure = none) :
    Adds mode r.outcome (Check.sequence value [.key field] cs) (r.checks mode field value cs) := by
  induction cs generalizing r with
  | nil => exact adds_nil mode r h
  | cons c rest ih =>
    rcases hc : c.contribution value [.key field] with ⟨vs, decided⟩
    rw [checks_cons hc, Check.sequence, hc]
    apply (emit_adds mode (r.log (.runningCheck field c.kind)) vs h).append
    intro hn
    cases decided with
    | true => exact adds_nil mode _ hn
    | false => exact ih _ hn

theorem fields_adds (mode : Mode) (payload : Object) (r : Run) (fs : List FieldPlan)
    (h : r.failure = none) :
    Adds mode r.outcome (fs.flatMap fun f => f.verdicts payload) (r.fields mode payload fs) := by
  induction fs generalizing r with
  | nil => exact adds_nil mode r h
  | cons f rest ih =>
    rw [List.flatMap_cons, fields]
    apply (checks_adds mode f.name (payload.get? f.name) r f.checks h).append
    exact ih _

theorem close_eq (r : Run) : r.close.outcome = r.outcome ∧ r.close.failure = r.failure := by
  unfold close
  split <;> exact ⟨rfl, rfl⟩

end Run

namespace Plan

theorem execute_adds (p : Plan) (payload : Object) (mode : Mode) (o : Outcome) :
    Run.Adds mode o (p.verdicts payload) (p.execute payload mode o) := by
  have hl := Run.emit_adds mode ⟨o, [.executing p.fields.length payload.size mode], none⟩
    (p.keyLimiter.map fun l => l.verdict payload).toList rfl
  have hr := hl.append (Run.fields_adds mode payload _ p.fields)
  exact ⟨(Run.close_eq _).1.trans hr.outcome, (Run.close_eq _).2.trans hr.failure⟩

theorem execute_outcome (p : Plan) (payload : Object) (mode : Mode) (o : Outcome) :
    (p.execute payload mode o).outcome = o.pushAll (mode.recorded (p.verdicts payload)) :=
  (p.execute_adds payload mode o).outcome

theorem execute_failure (p : Plan) (payload : Object) (mode : Mode) (o : Outcome) :
    (p.execute payload mode o).failure = mode.failure? (p.verdicts payload) :=
  (p.execute_adds payload mode o).failure

/-- On an empty outcome a run lists what its mode records and nothing else. -/
theorem verdicts_execute (p : Plan) (payload : Object) (mode : Mode) :
    (p.execute payload mode .empty).outcome.verdicts = mode.recorded (p.verdicts payload) := by
  rw [execute_outcome, Outcome.verdicts_pushAll]
  rfl

end Plan

end PayloadCheck
