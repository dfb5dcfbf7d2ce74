import PayloadCheck.Execution.Options
import PayloadCheck.Report.Verdict
import PayloadCheck.Schema.Template

/-!
# Log events

What compiling a schema, building a plan and running it leave in the log.
-/

namespace PayloadCheck

inductive Event where
  | compiledTemplate (fields : Nat)
  | builtPlan (fields checks : Nat) (limit : Option Nat)
  | executing (fields keys : Nat) (mode : Mode)
  | runningCheck (field : String) (kind : ConstraintKind)
  | finished (verdicts errors : Nat)
  | aborted (v : Verdict)
  | sessionReset
  deriving DecidableEq, Repr

namespace Event

def modeText : Mode → String
  | .collectAll => "CollectAll"
  | .failFast => "FailFast"

def limitText : Option Nat → String
  | some n => "Some(" ++ toString n ++ ")"
  | none => "None"

/-- The level, the message and the fields of an event. -/
def text : Event → String
  | compiledTemplate fields => "DEBUG compiled schema template fields=" ++ toString fields
  | builtPlan fields checks limit =>
    "DEBUG built validation plan fields=" ++ toString fields ++ " checks=" ++ toString checks ++
      " key_limit=" ++ limitText limit
  | executing fields keys mode =>
    "DEBUG executing validation plan fields=" ++ toString fields ++ " keys=" ++ toString keys ++
      " mode=" ++ modeText mode
  | runningCheck field kind =>
    "TRACE running check field=" ++ field ++ " check=" ++ kind.name
  | finished verdicts errors =>
    "DEBUG validation finished results=" ++ toString verdicts ++ " errors=" ++ toString errors
  | aborted v =>
    "DEBUG fail-fast validation aborted code=" ++ v.code.name ++ " path=" ++ Path.text v.path
  | sessionReset => "DEBUG validation session reset"

end Event

/-- What compiling a template leaves in the log. -/
def Template.compiledEvent (t : Template) : Event := .compiledTemplate t.size

end PayloadCheck
