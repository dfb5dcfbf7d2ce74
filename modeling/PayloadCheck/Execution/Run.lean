import PayloadCheck.Execution.Event
import PayloadCheck.Execution.Plan
import PayloadCheck.Report.Outcome

/-!
# Runs

`Plan.execute` checks a payload against a plan and adds the verdicts to an outcome: first the one
on the number of keys, then field by field, check by check, until a check decides the field. In
fail-fast mode the first failing verdict is added and ends the run.
-/

namespace PayloadCheck

/-- How far a run has come. -/
structure Run where
  outcome : Outcome
  events : List Event
  /-- The failing verdict that has ended the run. -/
  failure : Option Verdict

namespace Run

def log (r : Run) (e : Event) : Run := { r with events := r.events ++ [e] }

/-- Adds verdicts, up to the first that ends the run. -/
def emit (mode : Mode) (r : Run) : List Verdict → Run
  | [] => r
  | v :: rest =>
    let added := { r with outcome := r.outcome.push v }
    if !v.isValid && mode = .failFast then { added with failure := some v }
    else emit mode added rest

def checks (mode : Mode) (field : String) (value : Option Json) (r : Run) : List Check → Run
  | [] => r
  | c :: rest =>
    let (verdicts, decided) := c.contribution value [.key field]
    let r := (r.log (.runningCheck field c.kind)).emit mode verdicts
    if r.failure.isSome || decided then r else checks mode field value r rest

def fields (mode : Mode) (payload : Object) (r : Run) : List FieldPlan → Run
  | [] => r
  | f :: rest =>
    let r := r.checks mode f.name (payload.get? f.name) f.checks
    if r.failure.isSome then r else fields mode payload r rest

/-- The event that closes a run. -/
def close (r : Run) : Run :=
  match r.failure with
  | none => r.log (.finished r.outcome.size r.outcome.errors.length)
  | some v => r.log (.aborted v)

end Run

namespace Plan

def execute (p : Plan) (payload : Object) (mode : Mode) (o : Outcome) : Run :=
  let start : Run := ⟨o, [.executing p.fields.length payload.size mode], none⟩
  let limited := start.emit mode (p.keyLimiter.map fun l => l.verdict payload).toList
  let run := if limited.failure.isSome then limited else limited.fields mode payload p.fields
  run.close

end Plan

end PayloadCheck
