import PayloadCheck.Execution.OptionsDocument
import PayloadCheck.Proofs.Records
import PayloadCheck.Proofs.Runs
import PayloadCheck.Report.Decoding
import PayloadCheck.Report.Encoding

/-!
# Verdicts, options and outcomes read back

The texts of verdicts and options decode to what was written, where numbers fit 64 bits. A segment
of a path is told by its value alone: a key is written as a string also where it is made of digits,
and an index as an integer, so neither is taken for the other. The text of an outcome lists all
verdicts under `results`, and pushing these again rebuilds the outcome.

* `Verdict.ofText_render`, `Options.ofText_render`: a verdict and options;
* `Outcome.rebuilt?_render`: an outcome that verdicts were pushed to;
* `records_decode_to_themselves`: all three.
-/

namespace PayloadCheck

open Decoder.Record (Writes)

/-! ## Paths -/

namespace PathSegment

/-- An index has room in 64 bits. -/
def Fits (segment : PathSegment) : Prop := ∀ i, segment = index i → i < indexLimit

theorem starts_toJson (segment : PathSegment) : segment.toJson.Starts := by
  cases segment with
  | key name => exact Json.starts_string name
  | index i => exact Json.starts_integer i

theorem plain_toJson {segment : PathSegment} (h : segment.Fits) (depth : Nat) :
    Json.Plain depth segment.toJson := by
  cases segment with
  | key name => exact .string name
  | index i =>
    have hi : i < 2 ^ 64 := h i rfl
    exact .integer (by omega)

theorem ofJson?_toJson {segment : PathSegment} (h : segment.Fits) :
    ofJson? segment.toJson = some segment := by
  cases segment with
  | key name => rfl
  | index i =>
    have hi : i < indexLimit := h i rfl
    have hbounds : (0 ≤ (i : Int) && (i : Int) < indexLimit) = true := by
      simp [hi]
    simp only [toJson, ofJson?, hbounds, Int.toNat_natCast, ↓reduceIte]

theorem decodes_reader {segment : PathSegment} (h : segment.Fits) (depth : Nat) :
    Decodes (reader depth) segment.toJson segment := by
  intro rest he
  obtain ⟨hlt, hvalue⟩ := Json.decodes_value (plain_toJson h depth) rest he
  refine ⟨hlt, ?_⟩
  simp only [reader, hvalue, bind, Except.bind, ofJson?_toJson h]
  rfl

end PathSegment

namespace Path

def Fits (p : Path) : Prop := ∀ segment ∈ p, segment.Fits

theorem decodes_reader {p : Path} (h : p.Fits) (depth : Nat) : Decodes (reader depth) p.toJson p :=
  Decoder.decodes_list "a sequence" (fun segment _ => segment.starts_toJson)
    fun segment hs => PathSegment.decodes_reader (h segment hs) depth

theorem plain_toJson {p : Path} (h : p.Fits) (depth : Nat) : Json.Plain (depth + 1) p.toJson :=
  .array fun _ hj => by
    obtain ⟨segment, hs, rfl⟩ := List.mem_map.mp hj
    exact PathSegment.plain_toJson (h segment hs) depth

end Path

/-! ## Verdicts -/

theorem VerdictCode.decodes_reader (c : VerdictCode) : Decodes reader (.string c.name) c := by
  have hmem : c ∈ all := by cases c <;> decide
  exact Decoder.decodes_choice_bare (by decide) (List.mem_map_of_mem hmem)

namespace Verdict

/-- The indices in the path have room in 64 bits. -/
def Fits (v : Verdict) : Prop := v.path.Fits

theorem decodes_textField (name : String) (put : Verdict → String → Verdict) (v : Verdict)
    (t : String) : Decodes ((textField name put).read v) (.string t) (put v t) :=
  (Decoder.decodes_text "a string" t).mapped (put v)

theorem decodes_codeField (v : Verdict) (c : VerdictCode) :
    Decodes (codeField.read v) (.string c.name) { v with code := c } :=
  c.decodes_reader.mapped fun code => ({ v with code := code } : Verdict)

theorem decodes_pathField (v : Verdict) {p : Path} (h : p.Fits) :
    Decodes (pathField.read v) p.toJson { v with path := p } :=
  (Path.decodes_reader h _).mapped fun path => ({ v with path := path } : Verdict)

theorem writes_members {v : Verdict} (h : v.Fits) :
    Writes record.fields record.start v.members v := by
  refine .cons (decodes_codeField _ v.code) ?_
  refine .cons (decodes_textField _ _ _ v.expected) ?_
  refine .cons (decodes_textField _ _ _ v.received) ?_
  refine .cons (decodes_pathField _ h) ?_
  refine .cons (decodes_textField _ _ _ v.message) ?_
  exact .nil v

theorem decodes_record {v : Verdict} (h : v.Fits) : Decodes record.read v.toJson v :=
  Decoder.Record.decodes_read (by decide) (writes_members h)

theorem ofText_render {v : Verdict} (h : v.Fits) : ofText v.toJson.render = .ok v :=
  Json.readText_render (decodes_record h)

theorem plain_toJson {v : Verdict} (h : v.Fits) (depth : Nat) :
    Json.Plain (depth + 2) v.toJson := by
  refine .object (by simp [members]) fun member hm => ?_
  simp only [members, List.mem_cons, List.not_mem_nil, or_false] at hm
  rcases hm with rfl | rfl | rfl | rfl | rfl
  · exact .string v.code.name
  · exact .string v.expected
  · exact .string v.received
  · exact Path.plain_toJson h depth
  · exact .string v.message

end Verdict

/-! ## Options -/

theorem Mode.decodes_reader (m : Mode) : Decodes reader m.toJson m := by
  have hmem : m ∈ all := by cases m <;> decide
  exact Decoder.decodes_choice_bare (by decide) (List.mem_map_of_mem hmem)

namespace KeyLimit

/-- A number of keys has room in 64 bits. -/
def Fits (limit : KeyLimit) : Prop := ∀ n, limit = max n → n ≤ Numeral.largestUnsigned

theorem decodes_reader {limit : KeyLimit} (h : limit.Fits) :
    Decodes reader limit.toJson limit := by
  cases limit with
  | schemaFields => exact Decoder.decodes_choice_bare (by decide) (by simp)
  | max n =>
    have hmax : Decodes maxReader (.number (.integer n)) (max n) :=
      (Decoder.decodes_natural "usize" (h n rfl)).mapped max
    exact Decoder.decodes_choice_carrying (by decide) (by simp) hmax
  | disabled => exact Decoder.decodes_choice_bare (by decide) (by simp)

end KeyLimit

namespace Options

theorem writes_members {o : Options} (h : o.keyLimit.Fits) :
    Writes record.fields record.start
      [("mode", o.mode.toJson), ("key_limit", o.keyLimit.toJson)] o := by
  have hmode : Decodes (modeField.read standard) o.mode.toJson { standard with mode := o.mode } :=
    o.mode.decodes_reader.mapped fun mode => ({ standard with mode := mode } : Options)
  have hlimit : Decodes (keyLimitField.read { standard with mode := o.mode }) o.keyLimit.toJson o :=
    (KeyLimit.decodes_reader h).mapped (withKeyLimit _)
  exact .cons hmode (.cons hlimit (.nil o))

theorem ofText_render {o : Options} (h : o.keyLimit.Fits) : ofText o.toJson.render = .ok o :=
  Json.readText_render (Decoder.Record.decodes_read (by decide) (writes_members h))

end Options

/-! ## Outcomes -/

namespace Outcome

theorem plain_listed {vs : List Verdict} (h : ∀ v ∈ vs, v.Fits) (depth : Nat) :
    Json.Plain (depth + 3) (listed vs) :=
  .array fun _ hj => by
    obtain ⟨v, hv, rfl⟩ := List.mem_map.mp hj
    exact Verdict.plain_toJson (h v hv) depth

/-- An outcome that verdicts were pushed to lists no others. -/
theorem plain_toJson {vs : List Verdict} (h : ∀ v ∈ vs, v.Fits) (depth : Nat) :
    Json.Plain (depth + 4) (empty.pushAll vs).toJson := by
  have hfilter (p : Verdict → Bool) : ∀ v ∈ vs.filter p, v.Fits :=
    fun v hv => h v (List.mem_filter.mp hv).1
  refine .object (by simp [members]) fun member hm => ?_
  simp only [members, verdicts_pushAll, errors_pushAll, valids_pushAll, List.mem_cons,
    List.not_mem_nil, or_false] at hm
  rcases hm with rfl | rfl | rfl | rfl
  · exact .bool _
  · exact plain_listed h depth
  · exact plain_listed (hfilter _) depth
  · exact plain_listed (hfilter _) depth

/-- The outcome that the verdicts listed in a text come to, each decoded and pushed in turn. -/
def rebuilt? (text : String) : Option Outcome :=
  match Json.parse text with
  | .ok (.object members) =>
    match members.lookup "results" with
    | some (.array items) =>
      (items.mapM fun item => (Verdict.ofText item.render).toOption).map empty.pushAll
    | _ => none
  | _ => none

theorem mapM_ofText_render {vs : List Verdict} (h : ∀ v ∈ vs, v.Fits) :
    ((vs.map Verdict.toJson).mapM fun item => (Verdict.ofText item.render).toOption) =
      some vs := by
  induction vs with
  | nil => rfl
  | cons v vs ih =>
    obtain ⟨hv, hvs⟩ := List.forall_mem_cons.mp h
    rw [List.map_cons, List.mapM_cons, Verdict.ofText_render hv, ih hvs]
    rfl

theorem rebuilt?_render {vs : List Verdict} (h : ∀ v ∈ vs, v.Fits) :
    rebuilt? (empty.pushAll vs).toJson.render = some (empty.pushAll vs) := by
  -- Brackets nest four deep in an outcome: its own, the list's, the verdict's and the path's.
  have hparse : Json.parse (empty.pushAll vs).toJson.render =
      .ok (.object (empty.pushAll vs).members) := Json.parse_render (plain_toJson h 123)
  have hverdicts : (empty.pushAll vs).verdicts = vs := verdicts_pushAll empty vs
  have hresults : (empty.pushAll vs).members.lookup "results" =
      some (.array (vs.map Verdict.toJson)) := by
    rw [members, hverdicts]
    rfl
  simp only [rebuilt?, hparse, hresults, mapM_ofText_render h, Option.map_some]

end Outcome

/-- What is written of a verdict, of options and of an outcome is read back as it was. -/
theorem records_decode_to_themselves :
    (∀ v : Verdict, v.Fits → Verdict.ofText v.toJson.render = .ok v) ∧
      (∀ o : Options, o.keyLimit.Fits → Options.ofText o.toJson.render = .ok o) ∧
      ∀ vs : List Verdict, (∀ v ∈ vs, v.Fits) →
        Outcome.rebuilt? (Outcome.empty.pushAll vs).toJson.render =
          some (Outcome.empty.pushAll vs) := by
  refine ⟨?_, ?_, ?_⟩
  · intro v hv
    exact Verdict.ofText_render hv
  · intro o ho
    exact Options.ofText_render ho
  · intro vs hvs
    exact Outcome.rebuilt?_render hvs

/-- A path that starts with a key of digits and goes on with two indices, one of the same digits and
the largest there is, and the largest number of keys. -/
theorem records_decode_to_themselves_digits :
    let v : Verdict := ⟨.invalidType, "an \"integer\"", "string\n",
      [.key "12", .index 12, .index 18446744073709551615], ""⟩
    let o : Options := ⟨.failFast, .max 18446744073709551615⟩
    v.Fits ∧ o.keyLimit.Fits ∧ Verdict.ofText v.toJson.render = .ok v ∧
      Options.ofText o.toJson.render = .ok o ∧
      Outcome.rebuilt? (Outcome.empty.pushAll [v, .blank]).toJson.render =
        some (Outcome.empty.pushAll [v, .blank]) := by
  intro v o
  have hv : v.Fits := by
    simp [v, Verdict.Fits, Path.Fits, PathSegment.Fits, PathSegment.indexLimit]
  have hblank : Verdict.blank.Fits := nofun
  have ho : o.keyLimit.Fits := by
    simp [o, KeyLimit.Fits, Numeral.largestUnsigned]
  obtain ⟨hverdict, hoptions, houtcome⟩ := records_decode_to_themselves
  refine ⟨hv, ho, hverdict v hv, hoptions o ho, houtcome [v, .blank] ?_⟩
  simp [hv, hblank]

end PayloadCheck
