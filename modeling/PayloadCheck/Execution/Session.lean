import PayloadCheck.Execution.Run

/-!
# Sessions

A session holds a template and runs one payload against it: its plan is built (`processed`), then
a payload is run (`parsed`), and only a reset or a new template makes another run possible. A run
that ends early counts like any other. A misuse is answered with a `UsageError` and changes
nothing.
-/

namespace PayloadCheck

inductive UsageError where
  | noTemplate
  | alreadyParsed
  deriving DecidableEq, Repr

def UsageError.message : UsageError → String
  | noTemplate => "no template set on this session; call set_template() first"
  | alreadyParsed => "payload already parsed; call reset() before parsing again"

/-- Why a fail-fast run has no outcome to return. -/
inductive RunError where
  | usage (e : UsageError)
  | failed (v : Verdict)
  deriving DecidableEq, Repr

inductive SessionState where
  | unprocessed
  | processed
  | parsed
  deriving DecidableEq, Repr

def SessionState.name : SessionState → String
  | unprocessed => "unprocessed"
  | processed => "processed"
  | parsed => "parsed"

structure Session where
  template : Option Template
  options : Options
  plan : Option Plan
  outcome : Outcome
  state : SessionState

/-- What an operation on a session gives back. -/
structure Reply (ε α : Type) where
  session : Session
  answer : Except ε α
  events : List Event

namespace Session

def empty : Session := ⟨none, .standard, none, .empty, .unprocessed⟩

def ofTemplate (t : Template) (options : Options) : Session :=
  { empty with template := some t, options := options }

def isParsed (s : Session) : Bool := s.state = .parsed

/-- Back to the start, with the same template. -/
def clear (s : Session) : Session :=
  { s with plan := none, outcome := .empty, state := .unprocessed }

def refuse (s : Session) (e : UsageError) : Reply UsageError α := ⟨s, .error e, []⟩

def setTemplate (s : Session) (t : Template) : Session := { s with template := some t }.clear

def setKeyLimit (s : Session) (limit : KeyLimit) : Reply UsageError Unit :=
  if s.isParsed then s.refuse .alreadyParsed
  else
    ⟨{ s with
        options := s.options.withKeyLimit limit
        plan := none
        state := .unprocessed },
      .ok (), []⟩

/-- Builds the plan, unless it is there. -/
def process (s : Session) : Reply UsageError Plan :=
  match s.template with
  | none => s.refuse .noTemplate
  | some t =>
    let state := if s.state = .unprocessed then .processed else s.state
    match s.plan with
    | some p => ⟨{ s with state := state }, .ok p, []⟩
    | none =>
      let p := Plan.build t s.options.keyLimit
      ⟨{ s with plan := some p, state := state }, .ok p,
        [.builtPlan p.fields.length p.checkCount p.limit?]⟩

/-- Runs a payload. The answer is the verdict that ended the run early, if one did. -/
def run (s : Session) (payload : Object) (mode : Mode) : Reply UsageError (Option Verdict) :=
  if s.isParsed then s.refuse .alreadyParsed
  else
    let processed := s.process
    match processed.answer with
    | .error e => processed.session.refuse e
    | .ok p =>
      let run := p.execute payload mode processed.session.outcome
      ⟨{ processed.session with outcome := run.outcome, state := .parsed },
        .ok run.failure, processed.events ++ run.events⟩

/-- Runs a payload to the end and answers with all verdicts. -/
def safeParse (s : Session) (payload : Object) : Reply UsageError Outcome :=
  let r := s.run payload .collectAll
  ⟨r.session, r.answer.map fun _ => r.session.outcome, r.events⟩

/-- Runs a payload in a mode, and answers with the verdict that ended the run early if one did. -/
def runIn (mode : Mode) (s : Session) (payload : Object) : Reply RunError Outcome :=
  let r := s.run payload mode
  ⟨r.session,
    match r.answer with
    | .error e => .error (.usage e)
    | .ok (some v) => .error (.failed v)
    | .ok none => .ok r.session.outcome,
    r.events⟩

/-- Runs a payload up to the first failing verdict. -/
def parse (s : Session) (payload : Object) : Reply RunError Outcome := s.runIn .failFast payload

/-- Runs a payload in the mode of the session's options. -/
def validate (s : Session) (payload : Object) : Reply RunError Outcome :=
  s.runIn s.options.mode payload

def reset (s : Session) : Reply UsageError Unit :=
  match s.template with
  | none => s.refuse .noTemplate
  | some _ => ⟨s.clear, .ok (), [.sessionReset]⟩

end Session

end PayloadCheck
