import Mathlib.Data.List.Perm.Basic
import PayloadCheck.Proofs.Runs
import PayloadCheck.Proofs.Sessions

/-!
# What an outcome keeps apart

An outcome lists its verdicts, and lists the failing and the valid ones again on their own. That the
three lists belong together is an invariant of pushing (`Outcome.Partitioned`), and runs only push.

* `Outcome.Partitioned.push`, `Outcome.Partitioned.pushAll`: it is kept by one verdict, and so by
  any number of them;
* `Call.foldl_apply`: calls push what their modes record, also those that end early;
* `outcome_partitions_verdicts`: so the invariant holds after any calls and at any moment on the
  way, and with it what an outcome answers for all its verdicts;
* `Session.Reachable.partitioned`: and it holds of the outcome that a session keeps.
-/

namespace PayloadCheck

/-- The failing verdicts and the valid ones, each in the order of all verdicts. -/
structure Outcome.Partitioned (o : Outcome) : Prop where
  errors : o.errors = o.verdicts.filter fun v => v.code ≠ .valid
  valids : o.valids = o.verdicts.filter fun v => v.code = .valid

/-- A plan is run on a payload in a mode. -/
structure Call where
  plan : Plan
  payload : Object
  mode : Mode

namespace Call

/-- The outcome that a call leaves, whether or not a failing verdict has ended it. -/
def apply (o : Outcome) (c : Call) : Outcome := (c.plan.execute c.payload c.mode o).outcome

def added (c : Call) : List Verdict := c.mode.recorded (c.plan.verdicts c.payload)

end Call

/-- The outcome that calls leave one after another, the first of them on an empty one. -/
def Outcome.after (calls : List Call) : Outcome := calls.foldl Call.apply .empty

/-! ## The invariant -/

namespace Outcome

variable {o : Outcome}

theorem partitioned_empty : empty.Partitioned := ⟨rfl, rfl⟩

theorem Partitioned.push (h : o.Partitioned) (v : Verdict) : (o.push v).Partitioned := by
  constructor
  · rw [errors_push, verdicts_push, List.filter_append, h.errors]
    by_cases hv : v.code = .valid <;> simp [Verdict.isValid, VerdictCode.isValid, hv]
  · rw [valids_push, verdicts_push, List.filter_append, h.valids]
    by_cases hv : v.code = .valid <;> simp [Verdict.isValid, VerdictCode.isValid, hv]

theorem Partitioned.pushAll (h : o.Partitioned) (vs : List Verdict) :
    (o.pushAll vs).Partitioned := by
  induction vs generalizing o with
  | nil => exact h
  | cons v rest ih => exact ih (h.push v)

/-! ## What follows from it -/

theorem Partitioned.perm (h : o.Partitioned) : (o.errors ++ o.valids).Perm o.verdicts := by
  have hsplit := List.filter_append_perm (fun v : Verdict => v.code ≠ .valid) o.verdicts
  rw [h.errors, h.valids]
  simpa using hsplit

theorem Partitioned.size_eq (h : o.Partitioned) :
    o.size = o.errors.length + o.valids.length := by
  rw [size, ← h.perm.length_eq, List.length_append]

theorem Partitioned.isValid_iff (h : o.Partitioned) :
    o.isValid = true ↔ ∀ v ∈ o.verdicts, v.code = .valid := by
  rw [isValid, List.isEmpty_iff, h.errors, List.filter_eq_nil_iff]
  simp

theorem Partitioned.firstError?_eq (h : o.Partitioned) :
    o.firstError? = o.verdicts.find? fun v => v.code ≠ .valid := by
  rw [firstError?, h.errors, List.head?_filter]

end Outcome

/-! ## Calls -/

theorem Call.foldl_apply (o : Outcome) (calls : List Call) :
    calls.foldl apply o = o.pushAll (calls.flatMap added) := by
  induction calls generalizing o with
  | nil => rfl
  | cons c rest ih =>
    have hc : apply o c = o.pushAll c.added := c.plan.execute_outcome c.payload c.mode o
    rw [List.foldl_cons, ih, hc, List.flatMap_cons, Outcome.pushAll_append]

namespace Outcome

theorem verdicts_after (calls : List Call) :
    (after calls).verdicts = calls.flatMap Call.added := by
  rw [after, Call.foldl_apply, verdicts_pushAll]
  rfl

theorem partitioned_after (calls : List Call) : (after calls).Partitioned := by
  rw [after, Call.foldl_apply]
  exact partitioned_empty.pushAll _

end Outcome

/-- The verdicts of an outcome are those that its calls have added, in the order of the calls. Of
these the errors are the failing ones and the valids the others, in the same order and with none
lost or doubled, so the outcome is valid exactly if all of them are and its first error is the first
failing one. It was the same with what had been pushed at any moment before. -/
theorem outcome_partitions_verdicts (calls : List Call) :
    let o := Outcome.after calls
    o.verdicts = calls.flatMap Call.added ∧ o.Partitioned ∧
      (o.errors ++ o.valids).Perm o.verdicts ∧
      o.size = o.errors.length + o.valids.length ∧
      (o.isValid = true ↔ ∀ v ∈ o.verdicts, v.code = .valid) ∧
      (o.firstError? = o.verdicts.find? fun v => v.code ≠ .valid) ∧
      ∀ n, (Outcome.empty.pushAll (o.verdicts.take n)).Partitioned := by
  intro o
  have h : o.Partitioned := Outcome.partitioned_after calls
  exact ⟨Outcome.verdicts_after calls, h, h.perm, h.size_eq, h.isValid_iff, h.firstError?_eq,
    fun _ => Outcome.partitioned_empty.pushAll _⟩

/-- A session keeps the outcome of its last run, or an empty one. -/
theorem Session.Reachable.partitioned {s : Session} (hs : s.Reachable) : s.outcome.Partitioned := by
  obtain ⟨start, ops, rfl⟩ := hs
  have hsound := History.sound_after start ops
  by_cases h : (History.after start ops).session.state = .parsed
  · obtain ⟨p, payload, mode, -, -, ho⟩ := hsound.parsed h
    rw [ho]
    exact Outcome.partitioned_after [⟨p, payload, mode⟩]
  · rw [(hsound.unparsed h).1]
    exact Outcome.partitioned_empty

end PayloadCheck
