import PayloadCheck.Proofs.Blocks
import PayloadCheck.Proofs.Elements
import PayloadCheck.Proofs.Guards

/-!
# The places of verdicts

A verdict has a path into the payload, and says what was found there. `Json.at?` follows a path,
and `Verdict.Faithful` says that the path of a verdict leads to a value and that the verdict quotes
that value, or that it is about a field that the payload lacks.

* `Check.constraint?_of_mem_verdicts`: the message of a verdict tells the constraint that it is on;
* `Check.points_of_contribution`: what a check contributes points at the value that it was given,
  or at an element of it, check by check;
* `verdict_faithful`: in either mode, all but the verdict on the number of keys is faithful.
-/

namespace PayloadCheck

/-! ## Places in a payload -/

namespace Json

/-- The value that a path leads to. -/
def at? : Json → Path → Option Json
  | v, [] => some v
  | object members, .key name :: rest => (members.lookup name).bind fun v => v.at? rest
  | array items, .index i :: rest => items[i]?.bind fun v => v.at? rest
  | _, _ :: _ => none

/-- The text of a string or a number; other values are called by their kind. -/
def textOrKind : Json → String
  | string s => s
  | number n => n.text
  | v => v.kind.name

/-- A string has so many characters, or an array so many elements. -/
inductive Counts : Json → Nat → Prop
  | string (s : String) : Counts (.string s) s.length
  | array (items : List Json) : Counts (.array items) items.length

/-- A value that can be measured has that many characters or elements. -/
theorem counts_of_isSized {v : Json} (h : v.kind.isSized = true) :
    ∃ n, v.size? = some n ∧ v.Counts n := by
  cases v with
  | string s => exact ⟨_, rfl, .string s⟩
  | array items => exact ⟨_, rfl, .array items⟩
  | number n => cases n <;> cases h
  | _ => cases h

end Json

theorem Object.at?_key (o : Object) (name : String) :
    o.toJson.at? [.key name] = o.get? name := by
  simp only [toJson, Json.at?, Object.get?]
  cases o.members.lookup name <;> rfl

theorem Object.at?_index {o : Object} {name : String} {items : List Json}
    (h : o.get? name = some (.array items)) {i : Nat} (hi : i < items.length) :
    o.toJson.at? [.key name, .index i] = some items[i] := by
  simp only [Object.get?] at h
  simp [toJson, Json.at?, h, hi]

/-! ## What a verdict quotes -/

/-- The messages of the checks, with the constraints that they check. -/
def messages : List (String × ConstraintKind) :=
  [("Number of keys is within the limit", .keyLimiter),
    ("Number of keys is above the limit", .keyLimiter),
    ("Value is present", .required), ("Value is required", .required),
    ("Value is not required", .required), ("Value is nullable", .nullable),
    ("Value is not nullable", .nullable), ("Value cannot be blank", .notBlank),
    ("Value is not blank", .notBlank), ("Valid type", .type), ("Invalid type", .type),
    ("Value is below the minimum", .range), ("Value is above the maximum", .range),
    ("Value is within the range", .range), ("Value is not numeric", .range),
    ("Value is below the minimum length", .length),
    ("Value is above the maximum length", .length), ("Value is within the length", .length),
    ("Value has no length", .length), ("Value matches the regex", .regex),
    ("Value does not match the regex", .regex)]

namespace Verdict

/-- The constraint that a verdict is on. Its message tells, since no two checks share one. -/
def constraint? (r : Verdict) : Option ConstraintKind := messages.lookup r.message

/-- What is received is what the value is. -/
structure Quotes (r : Verdict) (v : Json) : Prop where
  type : r.code = .invalidType → r.received = v.kind.name
  regex : r.code = .invalidRegex → r.received = v.textOrKind
  range : r.constraint? = some .range → r.received = v.shown
  length : r.constraint? = some .length → ∃ n, v.Counts n ∧ r.received = toString n

/-- A verdict on the value at a path points there, or at an element of the value. -/
inductive Points (r : Verdict) (path : Path) (v : Json) : Prop
  | whole (hp : r.path = path) (hq : r.Quotes v)
  | element (items : List Json) (i : Nat) (hi : i < items.length) (hv : v = .array items)
      (hp : r.path = path ++ [.index i]) (hc : r.code = .invalidType ∨ r.code = .invalidRegex)
      (hq : r.Quotes items[i])

/-- The path of a verdict leads from a field of the template to what the verdict quotes. The field
may be absent if it is its absence that the verdict is on. -/
inductive Faithful (t : Template) (payload : Object) (r : Verdict) : Prop
  | absent (name : String) (hn : name ∈ t.names) (hp : r.path = [.key name])
      (hr : r.constraint? = some .required) (hv : payload.get? name = none)
  | whole (name : String) (v : Json) (hn : name ∈ t.names) (hp : r.path = [.key name])
      (hv : payload.toJson.at? r.path = some v) (hq : r.Quotes v)
  | element (name : String) (items : List Json) (i : Nat) (v : Json) (hn : name ∈ t.names)
      (hp : r.path = [.key name, .index i])
      (hc : r.code = .invalidType ∨ r.code = .invalidRegex)
      (ha : payload.get? name = some (.array items)) (hi : i < items.length)
      (hv : payload.toJson.at? r.path = some v) (hq : r.Quotes v)

end Verdict

/-! ## The verdicts of checks -/

namespace Check

theorem mem_elementwise {passes : Json → Bool} {offence : Json → Path → Verdict}
    {whole r : Verdict} {items : List Json} {path : Path}
    (h : r ∈ elementwise passes offence whole items path) :
    r = whole ∨ ∃ i, ∃ hi : i < items.length, r = offence items[i] (path ++ [.index i]) := by
  by_cases hall : ∀ item ∈ items, passes item = true
  · rw [elementwise_of_all hall] at h
    exact .inl (List.mem_singleton.mp h)
  · rw [elementwise_of_offending hall] at h
    obtain ⟨⟨item, i⟩, hm, rfl⟩ := List.mem_map.mp h
    have hget := ((mem_offending_iff passes items item i).mp hm).1
    obtain ⟨hi, rfl⟩ := List.getElem?_eq_some_iff.mp hget
    exact .inr ⟨i, hi, rfl⟩

/-- The verdicts on a type, by cases: on the whole value, or on one element of it. -/
theorem mem_typeVerdicts {t : FieldType} {v : Json} {path : Path} {r : Verdict}
    (h : r ∈ typeVerdicts t (some v) path) :
    (∃ received, r = ⟨.valid, t.name, received, path, "Valid type"⟩) ∨
      r = typeOffence t.name v path ∨
      ∃ items expected i, ∃ hi : i < items.length,
        v = .array items ∧ r = typeOffence expected items[i] (path ++ [.index i]) := by
  cases t with
  | scalar s =>
    simp only [typeVerdicts] at h
    split at h
    · exact .inl ⟨_, List.mem_singleton.mp h⟩
    · exact .inr (.inl (List.mem_singleton.mp h))
  | arrayOf s =>
    cases v with
    | array items =>
      simp only [typeVerdicts] at h
      rcases mem_elementwise h with h | ⟨i, hi, h⟩
      · exact .inl ⟨_, h⟩
      · exact .inr (.inr ⟨items, _, i, hi, rfl, h⟩)
    | _ => exact .inr (.inl (List.mem_singleton.mp h))

/-- The verdicts on a text, by cases: on the whole value, or on one element of it. -/
theorem mem_regexVerdicts {p : Pattern} {v : Json} {path : Path} {r : Verdict}
    (h : r ∈ regexVerdicts p (some v) path) :
    r = ⟨.valid, "regex " ++ p.source, v.shown, path, "Value matches the regex"⟩ ∨
      r = regexOffence p v path ∨
      ∃ items i, ∃ hi : i < items.length,
        v = .array items ∧ r = regexOffence p items[i] (path ++ [.index i]) := by
  have hwhole (hv : regexVerdicts p (some v) path =
      if matchesText p v then
        [⟨.valid, "regex " ++ p.source, v.shown, path, "Value matches the regex"⟩]
      else [regexOffence p v path]) :
      r = ⟨.valid, "regex " ++ p.source, v.shown, path, "Value matches the regex"⟩ ∨
        r = regexOffence p v path := by
    rw [hv] at h
    split at h
    · exact .inl (List.mem_singleton.mp h)
    · exact .inr (List.mem_singleton.mp h)
  cases v with
  | array items =>
    rcases mem_elementwise h with h | ⟨i, hi, h⟩
    · exact .inl h
    · exact .inr (.inr ⟨items, i, hi, rfl, h⟩)
  | _ => exact (hwhole rfl).imp_right .inl

/-- The message of a verdict tells which check it comes from. -/
theorem constraint?_of_mem_verdicts {c : Check} {value : Option Json} {path : Path} {r : Verdict}
    (h : r ∈ c.verdicts value path) : r.constraint? = some c.kind := by
  cases c with
  | required flag =>
    obtain rfl := List.mem_singleton.mp h
    unfold requiredVerdict
    repeat' split
    all_goals rfl
  | nullable flag =>
    obtain rfl := List.mem_singleton.mp h
    cases flag <;> rfl
  | notBlank =>
    obtain rfl := List.mem_singleton.mp h
    unfold notBlankVerdict
    split <;> rfl
  | type t =>
    cases value with
    | none =>
      obtain rfl := List.mem_singleton.mp h
      rfl
    | some v => rcases mem_typeVerdicts h with ⟨_, rfl⟩ | rfl | ⟨_, _, _, _, _, rfl⟩ <;> rfl
  | range b =>
    obtain rfl := List.mem_singleton.mp h
    unfold rangeVerdict
    repeat' split
    all_goals rfl
  | length b =>
    obtain rfl := List.mem_singleton.mp h
    unfold lengthVerdict
    dsimp only
    repeat' split
    all_goals rfl
  | regex p =>
    cases value with
    | none =>
      obtain rfl := List.mem_singleton.mp h
      rfl
    | some v => rcases mem_regexVerdicts h with rfl | rfl | ⟨_, _, _, _, rfl⟩ <;> rfl

/-! What the verdicts on one value quote. The message settles which of the four fields of `Quotes`
says something. -/

theorem requiredVerdict_quotes (flag : Bool) (v : Json) (path : Path) :
    (requiredVerdict flag (some v) path).Quotes v := ⟨nofun, nofun, nofun, nofun⟩

theorem nullableVerdict_quotes (flag : Bool) (v : Json) (path : Path) :
    (nullableVerdict flag (some v) path).path = path ∧
      (nullableVerdict flag (some v) path).Quotes v := by
  cases flag <;> exact ⟨rfl, nofun, nofun, nofun, nofun⟩

theorem notBlankVerdict_quotes (v : Json) (path : Path) :
    (notBlankVerdict (some v) path).path = path ∧ (notBlankVerdict (some v) path).Quotes v := by
  unfold notBlankVerdict
  split <;> exact ⟨rfl, nofun, nofun, nofun, nofun⟩

theorem typeOffence_quotes (expected : String) (v : Json) (path : Path) :
    (typeOffence expected v path).Quotes v where
  type _ := rfl
  regex := nofun
  range := nofun
  length := nofun

theorem rangeVerdict_quotes (b : Bounds) (v : Json) (path : Path) :
    (rangeVerdict b (some v) path).path = path ∧ (rangeVerdict b (some v) path).Quotes v := by
  unfold rangeVerdict
  repeat' split
  all_goals exact ⟨rfl, nofun, nofun, fun _ => rfl, nofun⟩

/-- The size is quoted, where there is one. -/
theorem lengthVerdict_quotes (b : Bounds) {v : Json} (h : v.kind.isSized = true) (path : Path) :
    (lengthVerdict b (some v) path).path = path ∧ (lengthVerdict b (some v) path).Quotes v := by
  obtain ⟨n, hv, hn⟩ := Json.counts_of_isSized h
  unfold lengthVerdict
  simp only [Option.bind_some, hv]
  repeat' split
  all_goals exact ⟨rfl, nofun, nofun, nofun, fun _ => ⟨n, hn, rfl⟩⟩

theorem regexOffence_quotes (p : Pattern) (v : Json) (path : Path) :
    (regexOffence p v path).Quotes v where
  type := nofun
  regex _ := by cases v <;> rfl
  range := nofun
  length := nofun

/-- What a check contributes points at the value, or at an element of it. -/
theorem points_of_contribution {c : Check} {v : Json} {path : Path} {r : Verdict}
    (h : r ∈ (c.contribution (some v) path).1) : r.Points path v := by
  obtain ⟨hg, hr⟩ := guarded_of_mem_contribution h
  cases c with
  | required flag =>
    obtain rfl := List.mem_singleton.mp hr
    exact .whole rfl (requiredVerdict_quotes ..)
  | nullable flag =>
    obtain rfl := List.mem_singleton.mp hr
    obtain ⟨hp, hq⟩ := nullableVerdict_quotes flag v path
    exact .whole hp hq
  | notBlank =>
    obtain rfl := List.mem_singleton.mp hr
    obtain ⟨hp, hq⟩ := notBlankVerdict_quotes v path
    exact .whole hp hq
  | type t =>
    rcases mem_typeVerdicts hr with ⟨_, rfl⟩ | rfl | ⟨items, _, i, hi, hv, rfl⟩
    · exact .whole rfl ⟨nofun, nofun, nofun, nofun⟩
    · exact .whole rfl (typeOffence_quotes ..)
    · exact .element items i hi hv rfl (.inl rfl) (typeOffence_quotes ..)
  | range b =>
    obtain rfl := List.mem_singleton.mp hr
    obtain ⟨hp, hq⟩ := rangeVerdict_quotes b v path
    exact .whole hp hq
  | length b =>
    obtain rfl := List.mem_singleton.mp hr
    -- The check is asked of values that have a size, so that there is one to quote.
    have hs : v.kind.isSized = true := by cases hg <;> rfl
    obtain ⟨hp, hq⟩ := lengthVerdict_quotes b hs path
    exact .whole hp hq
  | regex p =>
    rcases mem_regexVerdicts hr with rfl | rfl | ⟨items, i, hi, hv, rfl⟩
    · exact .whole rfl ⟨nofun, nofun, nofun, nofun⟩
    · exact .whole rfl (regexOffence_quotes ..)
    · exact .element items i hi hv rfl (.inr rfl) (regexOffence_quotes ..)

/-- Of a field that is absent only its absence is spoken of. -/
theorem absent_of_contribution {c : Check} {path : Path} {r : Verdict}
    (h : r ∈ (c.contribution none path).1) :
    r.path = path ∧ r.constraint? = some .required := by
  cases c with
  | required flag =>
    have hr : r ∈ (required flag).verdicts none path := h
    refine ⟨?_, constraint?_of_mem_verdicts hr⟩
    obtain rfl := List.mem_singleton.mp hr
    cases flag <;> rfl
  | _ => cases h

theorem mem_sequence {value : Option Json} {path : Path} {cs : List Check} {r : Verdict}
    (h : r ∈ sequence value path cs) : ∃ c ∈ cs, r ∈ (c.contribution value path).1 := by
  induction cs with
  | nil => cases h
  | cons c rest ih =>
    rw [sequence] at h
    rcases List.mem_append.mp h with h | h
    · exact ⟨c, List.mem_cons_self, h⟩
    · split at h
      · cases h
      · obtain ⟨d, hd, hr⟩ := ih h
        exact ⟨d, List.mem_cons_of_mem c hd, hr⟩

end Check

/-! ## The verdicts of runs -/

/-- A field is found absent, or its verdicts point at what it holds. -/
theorem FieldSpec.mem_block {spec : FieldSpec} {value : Option Json} {path : Path} {r : Verdict}
    (h : r ∈ spec.block value path) :
    (value = none ∧ r.path = path ∧ r.constraint? = some .required) ∨
      ∃ v, value = some v ∧ r.Points path v := by
  rw [← Check.sequence_ofSpec] at h
  obtain ⟨c, -, hc⟩ := Check.mem_sequence h
  cases value with
  | none => exact .inl ⟨rfl, Check.absent_of_contribution hc⟩
  | some v => exact .inr ⟨v, rfl, Check.points_of_contribution hc⟩

theorem Verdict.faithful_of_mem_block {t : Template} {payload : Object}
    {f : String × FieldSpec} (hf : f ∈ t.fields) {r : Verdict}
    (h : r ∈ f.2.block (payload.get? f.1) [.key f.1]) : r.Faithful t payload := by
  have hn : f.1 ∈ t.names := List.mem_map_of_mem hf
  rcases FieldSpec.mem_block h with ⟨hv, hp, hr⟩ | ⟨v, hv, hpoints⟩
  · exact .absent f.1 hn hp hr hv
  · cases hpoints with
    | whole hp hq =>
      refine .whole f.1 v hn hp ?_ hq
      rw [hp, Object.at?_key, hv]
    | element items i hi ha hp hc hq =>
      rw [ha] at hv
      refine .element f.1 items i items[i] hn hp hc hv hi ?_ hq
      rw [hp]
      exact Object.at?_index hv hi

/-- A mode records no verdicts of its own. -/
theorem Mode.mem_of_mem_recorded {mode : Mode} {vs : List Verdict} {r : Verdict}
    (h : r ∈ mode.recorded vs) : r ∈ vs := by
  cases mode with
  | collectAll => exact h
  | failFast =>
    simp only [recorded] at h
    induction vs with
    | nil => exact h
    | cons v rest ih =>
      rw [throughFailure] at h
      split at h
      · rcases List.mem_cons.mp h with rfl | h
        · exact List.mem_cons_self
        · exact List.mem_cons_of_mem v (ih h)
      · obtain rfl := List.mem_singleton.mp h
        exact List.mem_cons_self

/-- What a run leaves in an outcome is faithful, but for the verdict on the number of keys. -/
theorem verdict_faithful (t : Template) (limit : KeyLimit) (payload : Object) (mode : Mode)
    (r : Verdict)
    (h : r ∈ ((Plan.build t limit).execute payload mode .empty).outcome.verdicts) :
    (∃ n ∈ limit.resolve t.size, r = (KeyLimiter.mk n t.names).verdict payload) ∨
      r.Faithful t payload := by
  rw [Plan.verdicts_execute] at h
  have hr := Mode.mem_of_mem_recorded h
  rw [Plan.verdicts_build] at hr
  rcases List.mem_append.mp hr with hk | hb
  · obtain ⟨n, hn, rfl⟩ := Option.map_eq_some_iff.mp (Option.mem_toList.mp hk)
    exact .inl ⟨n, hn, rfl⟩
  · obtain ⟨f, hf, hb⟩ := List.mem_flatMap.mp hb
    exact .inr (Verdict.faithful_of_mem_block hf hb)

/-- The second of two elements has the wrong type, and a fail-fast run ends there. -/
theorem verdict_faithful_element :
    let t : Template :=
      ⟨[("tags", ⟨.arrayOf .integer, some true, none, false, none, none, none⟩)], by decide⟩
    let payload : Object :=
      ⟨[("tags", .array [.number (.integer 1), .string "x"])], by decide⟩
    let r : Verdict :=
      ⟨.invalidType, "integer", "string", [.key "tags", .index 1], "Invalid type"⟩
    r ∈ ((Plan.build t .schemaFields).execute payload .failFast .empty).outcome.verdicts ∧
      ((∃ n ∈ KeyLimit.schemaFields.resolve t.size,
          r = (KeyLimiter.mk n t.names).verdict payload) ∨ r.Faithful t payload) := by
  intro t payload r
  have h : r ∈
      ((Plan.build t .schemaFields).execute payload .failFast .empty).outcome.verdicts := by
    decide
  exact ⟨h, verdict_faithful t .schemaFields payload .failFast r h⟩

end PayloadCheck
