import Mathlib
import PayloadCheck.Proofs.FailFast
import PayloadCheck.Service

/-!
# Answers of the service

`Answer.Given` says what three texts are answered with: by the first that is bad, of the options,
the schema and the payload in this order, or else by the run that they ask for, which is that of a
plan and knows of no session.

* `validatePayload_eq_iff`: this is what the service answers, and nothing else;
* `failed_iff_first_error`: a fail-fast answer is the first error of the collect-all answer;
* `service_composes_phases`: both, with what the mode says about the answer.
-/

namespace PayloadCheck

/-- The options that a text stands for. -/
inductive Options.Decoded (text : String) : Options → Prop
  | blank (h : isBlankText text = true) : Decoded text .standard
  | written (o : Options) (h : isBlankText text = false) (ho : Options.ofText text = .ok o) :
      Decoded text o

/-- The run that a template, options and a payload ask for. -/
def Template.runOf (t : Template) (o : Options) (payload : Object) : Run :=
  (Plan.build t o.keyLimit).execute payload o.mode .empty

/-- What the texts are answered with. -/
inductive Answer.Given (schema payload options : String) : Answer → Prop
  | badOptions (reason : String) (hb : isBlankText options = false)
      (ho : Options.ofText options = .error reason) :
      Given schema payload options (.inputError ("Failed to parse options JSON: " ++ reason))
  | badSchema (o : Options) (e : SchemaError) (ho : Options.Decoded options o)
      (hs : Template.ofText schema = .error e) :
      Given schema payload options (.schemaError (checkSchema schema))
  | badPayload (o : Options) (t : Template) (e : PayloadError) (ho : Options.Decoded options o)
      (hs : Template.ofText schema = .ok t) (hp : readPayload payload = .error e) :
      Given schema payload options (.inputError e.message)
  | finished (o : Options) (t : Template) (p : Object) (ho : Options.Decoded options o)
      (hs : Template.ofText schema = .ok t) (hp : readPayload payload = .ok p)
      (hf : (t.runOf o p).failure = none) :
      Given schema payload options (.validated (t.runOf o p).outcome)
  | stopped (o : Options) (t : Template) (p : Object) (v : Verdict)
      (ho : Options.Decoded options o) (hs : Template.ofText schema = .ok t)
      (hp : readPayload payload = .ok p) (hf : (t.runOf o p).failure = some v) :
      Given schema payload options (.failed v)

/-! ## Options -/

theorem readOptions_eq_ok_iff (text : String) (o : Options) :
    readOptions text = .ok o ↔ Options.Decoded text o := by
  unfold readOptions
  cases hb : isBlankText text with
  | true =>
    constructor
    · rintro ⟨⟩
      exact .blank hb
    · rintro (_ | ⟨_, h, _⟩)
      · rfl
      · cases hb.symm.trans h
  | false =>
    constructor
    · exact .written o hb
    · rintro (h | ⟨_, _, ho⟩)
      · cases hb.symm.trans h
      · exact ho

theorem Options.Decoded.unique {text : String} {o o' : Options} (h : Decoded text o)
    (h' : Decoded text o') : o = o' := by
  rw [← readOptions_eq_ok_iff] at h h'
  exact Except.ok.inj (h.symm.trans h')

theorem readOptions_eq_error_iff (text reason : String) :
    readOptions text = .error reason ↔
      isBlankText text = false ∧ Options.ofText text = .error reason := by
  unfold readOptions
  cases isBlankText text <;> simp

/-! ## The run behind an answer -/

/-- A new session makes the run of its template and options. -/
theorem Session.validate_ofTemplate_answer (t : Template) (o : Options) (payload : Object) :
    ((ofTemplate t o).validate payload).answer = (t.runOf o payload).answer := by
  have hs : (ofTemplate t o).state ≠ .parsed := nofun
  exact runIn_answer hs rfl payload o.mode

theorem Run.answer_ne_usage (r : Run) (e : UsageError) : r.answer ≠ .error (.usage e) := by
  unfold answer
  cases r.failure <;> nofun

theorem Answer.ofRun_answer (r : Run) :
    Answer.ofRun r.answer =
      match r.failure with
      | none => .validated r.outcome
      | some v => .failed v := by
  unfold Run.answer
  cases r.failure <;> rfl

theorem checkSchema_of_error {schema : String} {e : SchemaError}
    (h : Template.ofText schema = .error e) : checkSchema schema = [e] := by
  unfold checkSchema
  rw [h]

/-- The phases behind the options. -/
theorem validatePayload_of_options {options : String} {o : Options}
    (ho : readOptions options = .ok o) (schema payload : String) :
    validatePayload schema payload options =
      match Template.ofText schema with
      | .error e => .schemaError [e]
      | .ok t =>
        match readPayload payload with
        | .error e => .inputError e.message
        | .ok p => .ofRun (t.runOf o p).answer := by
  unfold validatePayload
  rw [ho]
  cases Template.ofText schema with
  | error e => rfl
  | ok t =>
    cases readPayload payload with
    | error e => rfl
    | ok p => exact congrArg Answer.ofRun (Session.validate_ofTemplate_answer t o p)

/-! ## The answer -/

theorem given_validatePayload (schema payload options : String) :
    Answer.Given schema payload options (validatePayload schema payload options) := by
  cases ho : readOptions options with
  | error reason =>
    obtain ⟨hb, hr⟩ := (readOptions_eq_error_iff options reason).mp ho
    unfold validatePayload
    rw [ho]
    exact .badOptions reason hb hr
  | ok o =>
    have hd := (readOptions_eq_ok_iff options o).mp ho
    rw [validatePayload_of_options ho]
    cases hs : Template.ofText schema with
    | error e =>
      have hg : Answer.Given schema payload options (.schemaError (checkSchema schema)) :=
        .badSchema o e hd hs
      rwa [checkSchema_of_error hs] at hg
    | ok t =>
      cases hp : readPayload payload with
      | error e => exact .badPayload o t e hd hs hp
      | ok p =>
        simp only [Answer.ofRun_answer]
        cases hf : (t.runOf o p).failure with
        | none => exact .finished o t p hd hs hp hf
        | some v => exact .stopped o t p v hd hs hp hf

theorem validatePayload_of_given {schema payload options : String} {a : Answer}
    (h : Answer.Given schema payload options a) : validatePayload schema payload options = a := by
  cases h with
  | badOptions reason hb ho =>
    unfold validatePayload
    rw [(readOptions_eq_error_iff options reason).mpr ⟨hb, ho⟩]
  | badSchema o e ho hs =>
    rw [validatePayload_of_options ((readOptions_eq_ok_iff options o).mpr ho), hs,
      checkSchema_of_error hs]
  | badPayload o t e ho hs hp =>
    rw [validatePayload_of_options ((readOptions_eq_ok_iff options o).mpr ho), hs, hp]
  | finished o t p ho hs hp hf =>
    rw [validatePayload_of_options ((readOptions_eq_ok_iff options o).mpr ho), hs, hp]
    simp only [Answer.ofRun_answer, hf]
  | stopped o t p v ho hs hp hf =>
    rw [validatePayload_of_options ((readOptions_eq_ok_iff options o).mpr ho), hs, hp]
    simp only [Answer.ofRun_answer, hf]

theorem validatePayload_eq_iff (schema payload options : String) (a : Answer) :
    validatePayload schema payload options = a ↔ Answer.Given schema payload options a := by
  constructor
  · rintro rfl
    exact given_validatePayload schema payload options
  · exact validatePayload_of_given

/-! ## The modes -/

theorem Outcome.isValid_eq_false_of_error {o : Outcome} {v : Verdict}
    (h : o.errors[0]? = some v) : o.isValid = false := by
  rw [isValid, List.isEmpty_eq_false_iff]
  intro he
  rw [he] at h
  cases h

namespace Template

theorem failure_runOf_collectAll (t : Template) (limit : KeyLimit) (p : Object) :
    (t.runOf ⟨.collectAll, limit⟩ p).failure = none := by
  rw [runOf, Plan.execute_failure]
  rfl

/-- The verdict that ends a fail-fast run is the first error of the collect-all run. -/
theorem failure_runOf_failFast (t : Template) (limit : KeyLimit) (p : Object) :
    (t.runOf ⟨.failFast, limit⟩ p).failure =
      (t.runOf ⟨.collectAll, limit⟩ p).outcome.errors[0]? := by
  rw [runOf, runOf, Plan.execute_failure, Plan.execute_outcome, Outcome.errors_pushAll]
  simp only [Outcome.empty, List.nil_append, ← List.head?_eq_getElem?, List.head?_filter]
  rfl

theorem errors_runOf_failFast {t : Template} {limit : KeyLimit} {p : Object}
    (h : (t.runOf ⟨.failFast, limit⟩ p).failure = none) :
    (t.runOf ⟨.failFast, limit⟩ p).outcome.errors = [] := by
  rw [runOf, Plan.execute_failure] at h
  have hv := (Mode.failFast_failure?_eq_none_iff _).mp h
  obtain ⟨-, ho⟩ := ((Plan.build t limit).execute_stopsAtFailure p .empty).none_fails hv
  rw [runOf, ho, Outcome.errors_pushAll]
  simpa [Outcome.empty] using hv

end Template

theorem validatePayload_ne_failed {options : String} {limit : KeyLimit}
    (ho : Options.Decoded options ⟨.collectAll, limit⟩) (schema payload : String) (v : Verdict) :
    validatePayload schema payload options ≠ .failed v := by
  rw [Ne, validatePayload_eq_iff]
  intro h
  cases h with
  | stopped o t p _ ho' hs hp hf =>
    obtain rfl := Options.Decoded.unique ho ho'
    rw [t.failure_runOf_collectAll] at hf
    cases hf

theorem errors_of_validated {options : String} {limit : KeyLimit}
    (ho : Options.Decoded options ⟨.failFast, limit⟩) {schema payload : String} {out : Outcome}
    (h : validatePayload schema payload options = .validated out) : out.errors = [] := by
  rw [validatePayload_eq_iff] at h
  cases h with
  | finished o t p ho' hs hp hf =>
    obtain rfl := Options.Decoded.unique ho ho'
    exact Template.errors_runOf_failFast hf

/-- Where the options differ in their mode only, a fail-fast answer is the first error of the
collect-all answer. -/
theorem failed_iff_first_error {all fast : String} {limit : KeyLimit}
    (hall : Options.Decoded all ⟨.collectAll, limit⟩)
    (hfast : Options.Decoded fast ⟨.failFast, limit⟩) (schema payload : String) (v : Verdict) :
    validatePayload schema payload fast = .failed v ↔
      ∃ out, validatePayload schema payload all = .validated out ∧ out.isValid = false ∧
        out.errors[0]? = some v := by
  constructor
  · intro h
    rw [validatePayload_eq_iff] at h
    cases h with
    | stopped o t p _ ho hs hp hf =>
      obtain rfl := Options.Decoded.unique hfast ho
      rw [t.failure_runOf_failFast] at hf
      refine ⟨_, (validatePayload_eq_iff ..).mpr
        (.finished _ t p hall hs hp (t.failure_runOf_collectAll limit p)), ?_, hf⟩
      exact Outcome.isValid_eq_false_of_error hf
  · rintro ⟨out, h, -, hv⟩
    rw [validatePayload_eq_iff] at h
    cases h with
    | finished o t p ho hs hp hf =>
      obtain rfl := Options.Decoded.unique hall ho
      rw [← t.failure_runOf_failFast] at hv
      exact (validatePayload_eq_iff ..).mpr (.stopped _ t p v hfast hs hp hv)

/-- The service goes through its phases in their order and ends with the run that the texts ask for,
which a session never refuses. A collect-all run is always answered with its outcome. A fail-fast
run is so if it is without errors, and otherwise with the first error of the collect-all run. -/
theorem service_composes_phases :
    (∀ schema payload options a,
      validatePayload schema payload options = a ↔ Answer.Given schema payload options a) ∧
    (∀ t o payload e, ((Session.ofTemplate t o).validate payload).answer ≠ .error (.usage e)) ∧
    (∀ schema payload options limit, Options.Decoded options ⟨.collectAll, limit⟩ →
      ∀ v, validatePayload schema payload options ≠ .failed v) ∧
    (∀ schema payload options limit, Options.Decoded options ⟨.failFast, limit⟩ →
      ∀ out, validatePayload schema payload options = .validated out →
        out.isValid = true ∧ out.errors = []) ∧
    ∀ schema payload all fast limit, Options.Decoded all ⟨.collectAll, limit⟩ →
      Options.Decoded fast ⟨.failFast, limit⟩ →
      ∀ v, validatePayload schema payload fast = .failed v ↔
        ∃ out, validatePayload schema payload all = .validated out ∧ out.isValid = false ∧
          out.errors[0]? = some v := by
  refine ⟨validatePayload_eq_iff, fun t o payload e => ?_, fun schema payload options limit h => ?_,
    fun schema payload options limit h out hv => ?_,
    fun schema payload all fast limit hall hfast => ?_⟩
  · rw [Session.validate_ofTemplate_answer]
    exact Run.answer_ne_usage _ e
  · exact validatePayload_ne_failed h schema payload
  · have he := errors_of_validated h hv
    refine ⟨?_, he⟩
    rw [Outcome.isValid, he]
    rfl
  · exact failed_iff_first_error hall hfast schema payload

/-- Blank options against those that only set the mode. The schema has no fields, so that a payload
with a key has one too many, and the empty payload is valid. -/
theorem service_composes_phases_surplus :
    let fast := "\x7b\"mode\":\"fail_fast\"\x7d"
    let schema := "\x7b\x7d"
    let payload := "\x7b\"a\":null\x7d"
    let v : Verdict := ⟨.invalidKeyLimiter, "at most 0 keys", "1", [.key "a"],
      "Number of keys is above the limit"⟩
    Options.Decoded "" ⟨.collectAll, .schemaFields⟩ ∧
      Options.Decoded fast ⟨.failFast, .schemaFields⟩ ∧
      validatePayload schema payload fast = .failed v ∧
      (∃ out, validatePayload schema payload "" = .validated out ∧ out.isValid = false ∧
        out.errors[0]? = some v) ∧
      (∀ w, validatePayload schema payload "" ≠ .failed w) ∧
      ∃ out, validatePayload schema "\x7b\x7d" fast = .validated out ∧ out.isValid = true ∧
        out.errors = [] := by
  intro fast schema payload v
  have hall : Options.Decoded "" ⟨.collectAll, .schemaFields⟩ := .blank rfl
  have hfast : Options.Decoded fast ⟨.failFast, .schemaFields⟩ :=
    .written _ (by cbv) (by cbv)
  have hs : Template.ofText schema = .ok ⟨[], List.nodup_nil⟩ := by cbv
  have hp : readPayload payload = .ok ⟨[("a", .null)], by decide⟩ := by cbv
  have he : readPayload "\x7b\x7d" = .ok .empty := by cbv
  obtain ⟨hiff, -, hcollect, hvalid, hfirst⟩ := service_composes_phases
  have hfail : validatePayload schema payload fast = .failed v :=
    (hiff ..).mpr (.stopped _ _ _ v hfast hs hp (by decide))
  have hdone : validatePayload schema "\x7b\x7d" fast = .validated _ :=
    (hiff ..).mpr (.finished _ _ _ hfast hs he (by decide))
  exact ⟨hall, hfast, hfail, (hfirst schema payload "" fast _ hall hfast v).mp hfail,
    hcollect schema payload "" _ hall, _, hdone, hvalid schema _ fast _ hfast _ hdone⟩

end PayloadCheck
