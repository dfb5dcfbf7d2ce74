import PayloadCheck.Proofs.Isolation

/-!
# What the guards leave unreachable

A check has an answer for every value, also for those that a run never asks it about.

* `Plan.executeBy_of_guarded`: a run comes out the same whatever is answered about values that are
  not guarded, so those answers are never called for;
* `KeyLimiter.reachable_verdict`, `FieldSpec.reachable_of_mem_block`: what a run says shows none of
  them;
* `unguarded_answers_unused`: both together, for every template, limit, payload and mode.
-/

namespace PayloadCheck

/-! ## Runs with other answers -/

namespace Run

/-- `Run.checks`, with a respondent in place of the checks. -/
def checksBy (ask : Check.Respondent) (mode : Mode) (field : String) (value : Option Json)
    (r : Run) : List Check → Run
  | [] => r
  | c :: rest =>
    let (verdicts, decided) := Check.contributionBy ask c value [.key field]
    let r := (r.log (.runningCheck field c.kind)).emit mode verdicts
    if r.failure.isSome || decided then r else checksBy ask mode field value r rest

/-- `Run.fields`, with a respondent in place of the checks. -/
def fieldsBy (ask : Check.Respondent) (mode : Mode) (payload : Object) (r : Run) :
    List FieldPlan → Run
  | [] => r
  | f :: rest =>
    let r := r.checksBy ask mode f.name (payload.get? f.name) f.checks
    if r.failure.isSome then r else fieldsBy ask mode payload r rest

end Run

/-- `Plan.execute`, with a respondent in place of the checks. -/
def Plan.executeBy (ask : Check.Respondent) (p : Plan) (payload : Object) (mode : Mode)
    (o : Outcome) : Run :=
  let start : Run := ⟨o, [.executing p.fields.length payload.size mode], none⟩
  let limited := start.emit mode (p.keyLimiter.map fun l => l.verdict payload).toList
  let run := if limited.failure.isSome then limited else limited.fieldsBy ask mode payload p.fields
  run.close

/-- The respondent answers as the checks do wherever they are asked. -/
def Check.AnswersGuarded (ask : Check.Respondent) : Prop :=
  ∀ c value path, c.Guarded value → ask c value path = c.verdicts value path

theorem Check.AnswersGuarded.contributionBy_eq {ask : Check.Respondent}
    (h : Check.AnswersGuarded ask) (c : Check) (value : Option Json) (path : Path) :
    Check.contributionBy ask c value path = c.contribution value path := by
  rw [← Check.contributionBy_verdicts]
  exact Check.contributionBy_congr h c value path

namespace Run

theorem checksBy_of_guarded {ask : Check.Respondent} (h : Check.AnswersGuarded ask) (mode : Mode)
    (field : String) (value : Option Json) (r : Run) (cs : List Check) :
    r.checksBy ask mode field value cs = r.checks mode field value cs := by
  induction cs generalizing r with
  | nil => rfl
  | cons c rest ih => simp only [checksBy, checks, h.contributionBy_eq, ih]

theorem fieldsBy_of_guarded {ask : Check.Respondent} (h : Check.AnswersGuarded ask) (mode : Mode)
    (payload : Object) (r : Run) (fs : List FieldPlan) :
    r.fieldsBy ask mode payload fs = r.fields mode payload fs := by
  induction fs generalizing r with
  | nil => rfl
  | cons f rest ih => simp only [fieldsBy, fields, checksBy_of_guarded h, ih]

end Run

theorem Plan.executeBy_of_guarded {ask : Check.Respondent} (h : Check.AnswersGuarded ask)
    (p : Plan) (payload : Object) (mode : Mode) (o : Outcome) :
    p.executeBy ask payload mode o = p.execute payload mode o := by
  simp only [executeBy, execute, Run.fieldsBy_of_guarded h]

/-! ## What a run never says -/

/-- A verdict that a run can come to. -/
structure Verdict.Reachable (t : Template) (payload : Object) (r : Verdict) : Prop where
  numeric : r.message ≠ "Value is not numeric"
  sized : r.message ≠ "Value has no length"
  nullable : r.constraint? = some .nullable → r.received = "null"
  absent : ∀ name ∈ t.names, payload.get? name = none → r.field? = some name →
    r.constraint? = some .required

namespace Check

theorem rangeVerdict_message_ne (b : Bounds) (n : Number) (path : Path) :
    (rangeVerdict b (some (.number n)) path).message ≠ "Value is not numeric" := by
  unfold rangeVerdict
  dsimp only
  repeat' split
  all_goals simp

theorem lengthVerdict_message_ne (b : Bounds) {v : Json} (h : v.kind.isSized = true)
    (path : Path) : (lengthVerdict b (some v) path).message ≠ "Value has no length" := by
  obtain ⟨n, hn, -⟩ := Json.counts_of_isSized h
  unfold lengthVerdict
  simp only [Option.bind_some, hn]
  repeat' split
  all_goals simp

variable {c : Check} {value : Option Json} {path : Path} {r : Verdict}

/-- Only the check on ranges speaks of what is not numeric, and it is asked about numbers. -/
theorem message_ne_not_numeric (hg : c.Guarded value) (h : r ∈ c.verdicts value path) :
    r.message ≠ "Value is not numeric" := by
  intro hm
  have hk : r.constraint? = some .range := by rw [Verdict.constraint?, hm]; rfl
  rw [constraint?_of_mem_verdicts h] at hk
  cases hg with
  | range b n =>
    obtain rfl := List.mem_singleton.mp h
    exact rangeVerdict_message_ne b n path hm
  | _ => cases hk

/-- Only the check on lengths speaks of what has no length, and it is asked about what has one. -/
theorem message_ne_no_length (hg : c.Guarded value) (h : r ∈ c.verdicts value path) :
    r.message ≠ "Value has no length" := by
  intro hm
  have hk : r.constraint? = some .length := by rw [Verdict.constraint?, hm]; rfl
  rw [constraint?_of_mem_verdicts h] at hk
  cases hg with
  | lengthOfString b s =>
    obtain rfl := List.mem_singleton.mp h
    exact lengthVerdict_message_ne b rfl path hm
  | lengthOfArray b items =>
    obtain rfl := List.mem_singleton.mp h
    exact lengthVerdict_message_ne b rfl path hm
  | _ => cases hk

theorem received_of_nullable (hg : c.Guarded value) (h : r ∈ c.verdicts value path)
    (hk : r.constraint? = some .nullable) : r.received = "null" := by
  rw [constraint?_of_mem_verdicts h] at hk
  cases hg with
  | nullable flag =>
    obtain rfl := List.mem_singleton.mp h
    cases flag <;> rfl
  | _ => cases hk

end Check

theorem FieldSpec.reachable_of_mem_block {t : Template} {payload : Object}
    {f : String × FieldSpec} {r : Verdict}
    (h : r ∈ f.2.block (payload.get? f.1) [.key f.1]) : r.Reachable t payload := by
  have hs := h
  rw [← Check.sequence_ofSpec] at hs
  obtain ⟨c, -, hc⟩ := Check.mem_sequence hs
  obtain ⟨hg, hv⟩ := Check.guarded_of_mem_contribution hc
  refine ⟨Check.message_ne_not_numeric hg hv, Check.message_ne_no_length hg hv,
    Check.received_of_nullable hg hv, ?_⟩
  intro name _ hn hf
  -- The verdict is of the field in whose block it stands, and that field is absent.
  rw [field?_of_mem_block h, Option.some.injEq] at hf
  rw [hf, hn] at h
  rcases mem_block h with ⟨-, -, hr⟩ | ⟨v, hv, -⟩
  · exact hr
  · cases hv

theorem KeyLimiter.reachable_verdict (t : Template) (n : Nat) (payload : Object) :
    ((KeyLimiter.mk n t.names).verdict payload).Reachable t payload := by
  have hk : ((KeyLimiter.mk n t.names).verdict payload).constraint? = some .keyLimiter := by
    unfold verdict
    split <;> rfl
  refine ⟨fun hm => ?_, fun hm => ?_, fun hc => ?_, fun name hn _ hf => ?_⟩
  · rw [Verdict.constraint?, hm] at hk
    cases hk
  · rw [Verdict.constraint?, hm] at hk
    cases hk
  · rw [hk] at hc
    cases hc
  · exact absurd hf (field?_verdict_ne (l := ⟨n, t.names⟩) hn payload)

/-- A run never calls for an answer about a value that is not guarded: it comes out the same
whatever those answers are. So it says nowhere that a value is not numeric or has no length,
judges no value but null under `nullable`, and says of an absent field only that it is absent. -/
theorem unguarded_answers_unused (t : Template) (limit : KeyLimit) (payload : Object)
    (mode : Mode) :
    (∀ ask, Check.AnswersGuarded ask → ∀ o,
      (Plan.build t limit).executeBy ask payload mode o =
        (Plan.build t limit).execute payload mode o) ∧
    ∀ r ∈ ((Plan.build t limit).execute payload mode .empty).outcome.verdicts,
      r.Reachable t payload := by
  constructor
  · intro ask h o
    exact Plan.executeBy_of_guarded h _ payload mode o
  · intro r hr
    rw [Plan.verdicts_execute] at hr
    have hm := Mode.mem_of_mem_recorded hr
    rw [Plan.verdicts_build] at hm
    rcases List.mem_append.mp hm with hk | hb
    · obtain ⟨n, -, rfl⟩ := Option.map_eq_some_iff.mp (Option.mem_toList.mp hk)
      exact KeyLimiter.reachable_verdict t n payload
    · obtain ⟨f, -, hb⟩ := List.mem_flatMap.mp hb
      exact FieldSpec.reachable_of_mem_block hb

/-- A text in the place of a number: the check on the range is not asked about it, so that it makes
no difference that its answer is another one. -/
theorem unguarded_answers_unused_text :
    let t : Template :=
      ⟨[("score", ⟨.scalar .integer, none, none, false,
        some ⟨some (.integer 0), none⟩, none, none⟩)], by decide⟩
    let payload : Object := ⟨[("score", .string "x")], by decide⟩
    let ask : Check.Respondent := fun c value path =>
      match c, value with
      | .range _, some (.string _) => [⟨.valid, "", "", path, "Value is within the range"⟩]
      | c, value => c.verdicts value path
    let r : Verdict := ⟨.invalidType, "integer", "string", [.key "score"], "Invalid type"⟩
    Check.AnswersGuarded ask ∧
      ask (.range ⟨some (.integer 0), none⟩) (some (.string "x")) [] ≠
        (Check.range ⟨some (.integer 0), none⟩).verdicts (some (.string "x")) [] ∧
      (Plan.build t .schemaFields).executeBy ask payload .collectAll .empty =
        (Plan.build t .schemaFields).execute payload .collectAll .empty ∧
      r ∈ ((Plan.build t .schemaFields).execute payload .collectAll .empty).outcome.verdicts ∧
      r.Reachable t payload := by
  intro t payload ask r
  have hask : Check.AnswersGuarded ask := by
    intro c value path hg
    cases hg <;> rfl
  have hr : r ∈
      ((Plan.build t .schemaFields).execute payload .collectAll .empty).outcome.verdicts := by
    decide
  obtain ⟨hrun, hsays⟩ := unguarded_answers_unused t .schemaFields payload .collectAll
  exact ⟨hask, by decide, hrun ask hask .empty, hr, hsays r hr⟩

end PayloadCheck
