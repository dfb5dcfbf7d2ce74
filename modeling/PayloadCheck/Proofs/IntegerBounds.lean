import PayloadCheck.Proofs.Amendments
import PayloadCheck.Proofs.Consistency
import PayloadCheck.Proofs.Isolation
import PayloadCheck.Proofs.Numerals
import PayloadCheck.Proofs.Sequence
import PayloadCheck.Proofs.Words

/-!
# Bounds between integers

Where the ends of a range or of a length are integers, and so is what is tested, the integers are
compared and no doubles come into it: not when a schema is compiled, not when a payload is checked,
and not on the way from the text through words of 64 bits.

* `FieldSpec.filter_block`: the verdicts of a field that are on one constraint;
* `Interval.locates_of_test`: a verdict on a range or a length tells on which side an integer is;
* `integer_bounds_exact`: the compiler and the checks go by the integers.
-/

namespace PayloadCheck

/-- Integers between two ends, each of which may be open. -/
structure Interval where
  min : Option Int
  max : Option Int

namespace Interval

def bounds (i : Interval) : Bounds := ⟨i.min.map .integer, i.max.map .integer⟩

/-- Both ends are there, in the wrong order. -/
def Inverted (i : Interval) : Prop := ∃ min ∈ i.min, ∃ max ∈ i.max, max < min

def HasNegative (i : Interval) : Prop := (∃ min ∈ i.min, min < 0) ∨ ∃ max ∈ i.max, max < 0

def Below (i : Interval) (x : Int) : Prop := ∃ min ∈ i.min, x < min

def Above (i : Interval) (x : Int) : Prop := ∃ max ∈ i.max, max < x

def Contains (i : Interval) (x : Int) : Prop := (∀ min ∈ i.min, min ≤ x) ∧ ∀ max ∈ i.max, x ≤ max

/-- The verdict tells on which side of the interval the integer is. -/
structure Locates (i : Interval) (x : Int) (invalid : VerdictCode) (below above : String)
    (r : Verdict) : Prop where
  valid : r.code = .valid ↔ i.Contains x
  invalid : r.code = invalid ↔ ¬ i.Contains x
  below : r.message = below ↔ i.Below x
  above : r.message = above ↔ i.Above x

/-! ## Bounds and integers -/

theorem contains_iff (i : Interval) (x : Int) : i.Contains x ↔ ¬ i.Below x ∧ ¬ i.Above x := by
  simp [Contains, Below, Above]

theorem isInverted_bounds (i : Interval) : i.bounds.isInverted = true ↔ i.Inverted := by
  obtain ⟨min, max⟩ := i
  cases min <;> cases max <;>
    simp [bounds, Bounds.isInverted, Inverted, Number.order, Int.compare_eq_gt]

theorem hasNegative_bounds (i : Interval) : i.bounds.hasNegative = true ↔ i.HasNegative := by
  obtain ⟨min, max⟩ := i
  cases min <;> cases max <;> simp [bounds, Bounds.hasNegative, HasNegative, Number.isNegative]

theorem isBelow_bounds (i : Interval) (x : Int) :
    i.bounds.isBelow (.integer x) = true ↔ i.Below x := by
  simp [bounds, Bounds.isBelow_iff, Below, Number.order, Int.compare_eq_lt]

theorem isAbove_bounds (i : Interval) (x : Int) :
    i.bounds.isAbove (.integer x) = true ↔ i.Above x := by
  simp [bounds, Bounds.isAbove_iff, Above, Number.order, Int.compare_eq_gt]

instance (i : Interval) : Decidable i.Inverted := decidable_of_iff _ i.isInverted_bounds

instance (i : Interval) : Decidable i.HasNegative := decidable_of_iff _ i.hasNegative_bounds

instance (i : Interval) (x : Int) : Decidable (i.Below x) := decidable_of_iff _ (i.isBelow_bounds x)

instance (i : Interval) (x : Int) : Decidable (i.Above x) := decidable_of_iff _ (i.isAbove_bounds x)

/-! ## Verdicts -/

variable {i : Interval} {x : Int} {invalid : VerdictCode} {below above within : String}

/-- Intervals that are not inverted have no integer on both sides, so it does not matter that the
lower end is tested first. -/
theorem locates_of_test (hi : ¬ i.Inverted) (hvalid : invalid ≠ .valid) (hne : below ≠ above)
    (hwithin : within ≠ below ∧ within ≠ above) {b a w : Verdict}
    (hb : b.code = invalid ∧ b.message = below) (ha : a.code = invalid ∧ a.message = above)
    (hw : w.code = .valid ∧ w.message = within) :
    i.Locates x invalid below above
      (if i.bounds.isBelow (.integer x) then b
       else if i.bounds.isAbove (.integer x) then a else w) := by
  obtain ⟨hbc, rfl⟩ := hb
  obtain ⟨hac, rfl⟩ := ha
  obtain ⟨hwc, rfl⟩ := hw
  obtain ⟨hwb, hwa⟩ := hwithin
  by_cases hx : i.Below x
  · have hnot : ¬ i.Above x := by
      rintro ⟨max, hmax, hlt⟩
      obtain ⟨min, hmin, hgt⟩ := hx
      exact hi ⟨min, hmin, max, hmax, by omega⟩
    rw [if_pos ((i.isBelow_bounds x).mpr hx)]
    exact {
      valid := by simp [contains_iff, hbc, hvalid, hx]
      invalid := by simp [contains_iff, hbc, hx]
      below := by simp [hx]
      above := by simp [hne, hnot] }
  · rw [if_neg (mt (i.isBelow_bounds x).mp hx)]
    by_cases hx' : i.Above x
    · rw [if_pos ((i.isAbove_bounds x).mpr hx')]
      exact {
        valid := by simp [contains_iff, hac, hvalid, hx']
        invalid := by simp [contains_iff, hac, hx']
        below := by simp [hx, hne.symm]
        above := by simp [hx'] }
    · rw [if_neg (mt (i.isAbove_bounds x).mp hx')]
      exact {
        valid := by simp [contains_iff, hwc, hx, hx']
        invalid := by simp [contains_iff, hwc, hx, hx', hvalid.symm]
        below := by simp [hx, hwb]
        above := by simp [hx', hwa] }

theorem locates_rangeVerdict (hi : ¬ i.Inverted) (x : Int) (path : Path) :
    i.Locates x .invalidRange "Value is below the minimum" "Value is above the maximum"
      (Check.rangeVerdict i.bounds (some (.number (.integer x))) path) := by
  have hwithin : "Value is within the range" ≠ "Value is below the minimum" ∧
      "Value is within the range" ≠ "Value is above the maximum" := by decide
  exact locates_of_test hi (by decide) (by decide) hwithin ⟨rfl, rfl⟩ ⟨rfl, rfl⟩ ⟨rfl, rfl⟩

theorem locates_lengthVerdict (hi : ¬ i.Inverted) {v : Json} {n : Nat} (hv : v.Counts n)
    (path : Path) :
    i.Locates n .invalidLength "Value is below the minimum length"
      "Value is above the maximum length" (Check.lengthVerdict i.bounds (some v) path) := by
  have hsize : (some v).bind Json.size? = some n := by cases hv <;> rfl
  have hwithin : "Value is within the length" ≠ "Value is below the minimum length" ∧
      "Value is within the length" ≠ "Value is above the maximum length" := by decide
  unfold Check.lengthVerdict
  rw [hsize]
  exact locates_of_test hi (by decide) (by decide) hwithin ⟨rfl, rfl⟩ ⟨rfl, rfl⟩ ⟨rfl, rfl⟩

end Interval

/-! ## The verdicts on one constraint -/

def Verdict.isOn (k : ConstraintKind) (r : Verdict) : Bool := r.constraint? == some k

theorem Check.filter_verdicts (c : Check) (k : ConstraintKind) (value : Option Json) (path : Path) :
    (c.verdicts value path).filter (Verdict.isOn k) =
      if c.kind = k then c.verdicts value path else [] := by
  split
  · rename_i hk
    refine List.filter_eq_self.mpr fun r hr => ?_
    simp [Verdict.isOn, constraint?_of_mem_verdicts hr, hk]
  · rename_i hk
    refine List.filter_eq_nil_iff.mpr fun r hr => ?_
    simp [Verdict.isOn, constraint?_of_mem_verdicts hr, hk]

namespace FieldSpec

/-- What is listed for one constraint where the value is not decided before its type. -/
def part (spec : FieldSpec) (v : Json) (path : Path) : ConstraintKind → List Verdict
  | .required => spec.presencePart path
  | .notBlank => spec.blankPart v path
  | .type => Check.typeVerdicts spec.type (some v) path
  | .range => spec.rangePart v path
  | .length => spec.lengthPart v path
  | .regex => spec.regexPart v path
  | _ => []

/-- Each part is what one check says, if anything. -/
theorem part_eq (spec : FieldSpec) (v : Json) (path : Path) (k : ConstraintKind) :
    spec.part v path k = [] ∨
      ∃ c : Check, c.kind = k ∧ spec.part v path k = c.verdicts (some v) path := by
  cases k with
  | required =>
    rw [part, presencePart_eq spec v path]
    cases spec.required with
    | none => exact .inl rfl
    | some flag => exact .inr ⟨.required flag, rfl, rfl⟩
  | notBlank =>
    rw [part, blankPart]
    cases spec.notBlank with
    | false => exact .inl rfl
    | true => exact .inr ⟨.notBlank, rfl, rfl⟩
  | type => exact .inr ⟨.type spec.type, rfl, rfl⟩
  | range =>
    rw [part]
    unfold rangePart
    split
    · rename_i n b _
      exact .inr ⟨.range b, rfl, rfl⟩
    · exact .inl rfl
  | length =>
    rw [part]
    unfold lengthPart
    split
    · rename_i s b _
      exact .inr ⟨.length b, rfl, rfl⟩
    · rename_i items b _
      exact .inr ⟨.length b, rfl, rfl⟩
    · exact .inl rfl
  | regex =>
    rw [part]
    unfold regexPart
    split
    · rename_i s p _
      exact .inr ⟨.regex p, rfl, rfl⟩
    · rename_i n p _
      exact .inr ⟨.regex p, rfl, rfl⟩
    · rename_i items p _
      exact .inr ⟨.regex p, rfl, rfl⟩
    · exact .inl rfl
  | _ => exact .inl rfl

theorem filter_block {spec : FieldSpec} {v : Json} (hn : v = .null → spec.nullable = none)
    (ht : spec.type ≠ .scalar .any) (path : Path) (k : ConstraintKind) :
    (spec.block (some v) path).filter (Verdict.isOn k) = spec.part v path k := by
  have hpart (k' : ConstraintKind) : (spec.part v path k').filter (Verdict.isOn k) =
      if k' = k then spec.part v path k' else [] := by
    rcases spec.part_eq v path k' with hnil | ⟨c, rfl, hc⟩
    · simp [hnil]
    · rw [hc]
      exact c.filter_verdicts k (some v) path
  have hblock : spec.block (some v) path =
      ConstraintKind.fieldOrder.flatMap (spec.part v path) := by
    rw [block, valueVerdicts_of_typed hn ht, ← presencePart_eq]
    simp [ConstraintKind.fieldOrder, part]
  rw [hblock, List.filter_flatMap]
  simp only [hpart]
  cases k <;> simp [ConstraintKind.fieldOrder, part]

end FieldSpec

/-! ## Schemas and reports -/

namespace Template

/-- The schema is refused with a code, for what is wrong with the field. -/
def Refuses (schema : Object) (name code : String) : Prop :=
  ∃ w : Violation, compile schema = .error (.inField name w) ∧ w.code = code

theorem refuses_iff_of_error {schema : Object} {name : String} {w : Violation}
    (h : compile schema = .error (.inField name w)) (code : String) :
    Refuses schema name code ↔ w.code = code := by
  constructor
  · rintro ⟨w', hw', hcode⟩
    rw [h] at hw'
    cases hw'
    exact hcode
  · intro hcode
    exact ⟨w, h, hcode⟩

theorem not_refuses_of_ok {schema : Object} {t : Template} (h : compile schema = .ok t)
    (name code : String) : ¬ Refuses schema name code := by
  rintro ⟨w, hw, -⟩
  rw [h] at hw
  cases hw

section Amends

variable {schema schema' : Object} {t : Template} {name : String} {i : Interval}

theorem compile_of_range (h : schema.Amends name "range" i.bounds.toJson schema')
    (ht : compile schema = .ok t) :
    (i.Inverted → compile schema' = .error (.inField name (.boundsInverted "range" i.bounds))) ∧
      (¬ i.Inverted → ∃ f t', compile schema' = .ok t' ∧
        t.Amends name f { f with range := some i.bounds } t') := by
  obtain ⟨spec, spec', f, hg, hf, herror, hok⟩ := compile_amended h ht
  have hspec := FieldSpec.ofObject_of_gains_range hg hf
  constructor
  · intro hi
    rw [if_pos (i.isInverted_bounds.mpr hi)] at hspec
    exact herror _ hspec
  · intro hi
    rw [if_neg (mt i.isInverted_bounds.mp hi)] at hspec
    obtain ⟨t', ht', ha⟩ := hok _ hspec
    exact ⟨f, t', ht', ha⟩

/-- Bounds that are inverted and negative are refused as inverted. -/
theorem compile_of_length (h : schema.Amends name "length" i.bounds.toJson schema')
    (ht : compile schema = .ok t) :
    (i.Inverted → compile schema' = .error (.inField name (.boundsInverted "length" i.bounds))) ∧
      (¬ i.Inverted → i.HasNegative →
        compile schema' = .error (.inField name (.negativeLength i.bounds))) ∧
      (¬ i.Inverted → ¬ i.HasNegative → ∃ f t', compile schema' = .ok t' ∧
        t.Amends name f { f with length := some i.bounds } t') := by
  obtain ⟨spec, spec', f, hg, hf, herror, hok⟩ := compile_amended h ht
  have hspec := FieldSpec.ofObject_of_gains_length hg hf
  refine ⟨fun hi => ?_, fun hi hn => ?_, fun hi hn => ?_⟩
  · rw [if_pos (i.isInverted_bounds.mpr hi)] at hspec
    exact herror _ hspec
  · rw [if_neg (mt i.isInverted_bounds.mp hi), if_pos (i.hasNegative_bounds.mpr hn)] at hspec
    exact herror _ hspec
  · rw [if_neg (mt i.isInverted_bounds.mp hi), if_neg (mt i.hasNegative_bounds.mp hn)] at hspec
    obtain ⟨t', ht', ha⟩ := hok _ hspec
    exact ⟨f, t', ht', ha⟩

theorem refuses_of_range (h : schema.Amends name "range" i.bounds.toJson schema')
    (ht : compile schema = .ok t) : Refuses schema' name "T006" ↔ i.Inverted := by
  obtain ⟨hrefused, haccepted⟩ := compile_of_range h ht
  by_cases hi : i.Inverted
  · simp [refuses_iff_of_error (hrefused hi), Violation.code, hi]
  · obtain ⟨f, t', ht', -⟩ := haccepted hi
    simp [not_refuses_of_ok ht', hi]

theorem refuses_of_length (h : schema.Amends name "length" i.bounds.toJson schema')
    (ht : compile schema = .ok t) :
    (Refuses schema' name "T006" ↔ i.Inverted) ∧
      (Refuses schema' name "T007" ↔ ¬ i.Inverted ∧ i.HasNegative) := by
  obtain ⟨hinverted, hnegative, haccepted⟩ := compile_of_length h ht
  by_cases hi : i.Inverted
  · simp [refuses_iff_of_error (hinverted hi), Violation.code, hi]
  · by_cases hn : i.HasNegative
    · simp [refuses_iff_of_error (hnegative hi hn), Violation.code, hi, hn]
    · obtain ⟨f, t', ht', -⟩ := haccepted hi hn
      simp [not_refuses_of_ok ht', hi, hn]

end Amends

variable {t : Template} {name : String} {f : FieldSpec} {i : Interval} {payload : Object}

theorem not_inverted {schema : Object} (h : compile schema = .ok t) (hf : (name, f) ∈ t.fields)
    (hb : i.bounds ∈ f.range ∨ i.bounds ∈ f.length) : ¬ i.Inverted := by
  obtain ⟨spec, hspec⟩ := exists_ofObject_of_mem h hf
  have hordered := FieldSpec.bounds_ordered hspec hb
  rw [← Bounds.isInverted_eq_false_iff] at hordered
  rw [← i.isInverted_bounds, hordered]
  exact Bool.false_ne_true

theorem filter_forField (hf : (name, f) ∈ t.fields) (ht : f.type ≠ .scalar .any) {v : Json}
    (hv : payload.get? name = some v) (hnull : v ≠ .null) (limit : KeyLimit) (k : ConstraintKind) :
    ((t.report limit payload).forField name).filter (Verdict.isOn k) =
      f.part v [.key name] k := by
  rw [forField_report hf, hv]
  exact FieldSpec.filter_block (fun h => absurd h hnull) ht [.key name] k

end Template

/-- Bounds between integers are exact. A schema that is in order but for a range, or a length, is
refused as inverted if the lower end exceeds the upper, and one whose length has a negative end is
refused in any case. Where it is accepted, the one verdict on the range of an integer, or on the
number of characters or elements, tells on which side of the bounds it is. Integers in 64 bits
compare as they are, and come so from the text. -/
theorem integer_bounds_exact :
    (∀ schema schema' t name (i : Interval),
      schema.Amends name "range" i.bounds.toJson schema' → Template.compile schema = .ok t →
        (Template.Refuses schema' name "T006" ↔ i.Inverted) ∧
        (¬ i.Inverted → ∃ f t', Template.compile schema' = .ok t' ∧
          t.Amends name f { f with range := some i.bounds } t')) ∧
    (∀ schema schema' t name (i : Interval),
      schema.Amends name "length" i.bounds.toJson schema' → Template.compile schema = .ok t →
        (Template.Refuses schema' name "T006" ↔ i.Inverted) ∧
        (Template.Refuses schema' name "T007" ↔ ¬ i.Inverted ∧ i.HasNegative) ∧
        (¬ i.Inverted → ¬ i.HasNegative → ∃ f t', Template.compile schema' = .ok t' ∧
          t.Amends name f { f with length := some i.bounds } t')) ∧
    (∀ schema t, Template.compile schema = .ok t →
      ∀ name (f : FieldSpec) (i : Interval) limit payload, (name, f) ∈ t.fields →
        f.type ≠ .scalar .any →
        (∀ x, f.range = some i.bounds → payload.get? name = some (.number (.integer x)) →
          ∃ r, ((t.report limit payload).forField name).filter (Verdict.isOn .range) = [r] ∧
            i.Locates x .invalidRange "Value is below the minimum" "Value is above the maximum"
              r) ∧
        ∀ v n, f.length = some i.bounds → payload.get? name = some v → v.Counts n →
          ∃ r, ((t.report limit payload).forField name).filter (Verdict.isOn .length) = [r] ∧
            i.Locates n .invalidLength "Value is below the minimum length"
              "Value is above the maximum length" r) ∧
    (∀ x, Number64.Holds x →
      (Number64.ofNumber x).toNumber = x ∧ (Number64.ofNumber x).isNegative = x.isNegative ∧
      ∀ y, Number64.Holds y →
        (Number64.ofNumber x).order (Number64.ofNumber y) = x.order y) ∧
    ∀ n, Number64.Holds (.integer n) →
      (∃ w, (Number64.ofNumber (.integer n)).wide? = some w ∧ w.toInt = n) ∧
        Json.parse (Number.integer n).text = .ok (.number (.integer n)) := by
  refine ⟨fun schema schema' t name i h ht => ?_, fun schema schema' t name i h ht => ?_,
    fun schema t h name f i limit payload hf ht => ⟨fun x hb hv => ?_, fun v n hb hv hn => ?_⟩,
    fun x hx => ?_, fun n hn => ?_⟩
  · exact ⟨Template.refuses_of_range h ht, (Template.compile_of_range h ht).2⟩
  · obtain ⟨hinverted, hnegative⟩ := Template.refuses_of_length h ht
    exact ⟨hinverted, hnegative, (Template.compile_of_length h ht).2.2⟩
  · refine ⟨Check.rangeVerdict i.bounds (some (.number (.integer x))) [.key name], ?_, ?_⟩
    · rw [Template.filter_forField hf ht hv nofun]
      simp only [FieldSpec.part, FieldSpec.rangePart, hb]
    · exact Interval.locates_rangeVerdict (Template.not_inverted h hf (.inl hb)) x _
  · refine ⟨Check.lengthVerdict i.bounds (some v) [.key name], ?_, ?_⟩
    · have hnull : v ≠ .null := by
        rintro rfl
        cases hn
      rw [Template.filter_forField hf ht hv hnull]
      cases hn <;> simp only [FieldSpec.part, FieldSpec.lengthPart, hb]
    · exact Interval.locates_lengthVerdict (Template.not_inverted h hf (.inr hb)) hn _
  · exact ⟨Number64.toNumber_ofNumber hx, Number64.isNegative_ofNumber hx,
      fun y hy => Number64.order_ofNumber hx hy⟩
  · exact ⟨Number64.wide?_ofNumber hn, Json.parse_integer hn⟩

/-- An end and a number that are rounded to the same double, ends that fit 64 bits only with a sign
and only without, and characters that take more than one byte. -/
theorem integer_bounds_exact_unrounded :
    let type (name : String) : String × Json := ("type", .string name)
    let schema (key : String) (members : List (String × Json)) : Object :=
      ⟨[(key, .object members)], List.nodup_singleton key⟩
    let range (i : Interval) : Object :=
      schema "id" [("range", i.bounds.toJson), type "integer"]
    let length (i : Interval) : Object :=
      schema "name" [("length", i.bounds.toJson), type "string"]
    let i : Interval := ⟨some 9007199254740993, some 18446744073709551615⟩
    let inverted : Interval := ⟨some 18446744073709551615, some (-9223372036854775808)⟩
    let negative : Interval := ⟨some (-1), none⟩
    let l : Interval := ⟨none, some 2⟩
    let ranged : FieldSpec := ⟨.scalar .integer, none, none, false, some i.bounds, none, none⟩
    let measured : FieldSpec := ⟨.scalar .string, none, none, false, none, some l.bounds, none⟩
    let t : Template := ⟨[("id", ranged)], List.nodup_singleton "id"⟩
    let u : Template := ⟨[("name", measured)], List.nodup_singleton "name"⟩
    let id : Object := ⟨[("id", .number (.integer 9007199254740992))], List.nodup_singleton "id"⟩
    let name : Object := ⟨[("name", .string "ééé")], List.nodup_singleton "name"⟩
    (∀ i, (schema "id" [type "integer"]).Amends "id" "range" i.bounds.toJson (range i)) ∧
      (∀ i, (schema "name" [type "string"]).Amends "name" "length" i.bounds.toJson (length i)) ∧
      Template.Refuses (range inverted) "id" "T006" ∧
      Template.Refuses (length negative) "name" "T007" ∧
      ¬ Template.Refuses (range i) "id" "T006" ∧ Template.compile (range i) = .ok t ∧
      (∃ r, ((t.report .disabled id).forField "id").filter (Verdict.isOn .range) = [r] ∧
        r.code = .invalidRange ∧ r.message = "Value is below the minimum") ∧
      ¬ Template.Refuses (length l) "name" "T007" ∧ Template.compile (length l) = .ok u ∧
      (∃ r, ((u.report .disabled name).forField "name").filter (Verdict.isOn .length) = [r] ∧
        r.code = .invalidLength ∧ r.message = "Value is above the maximum length") ∧
      Number64.Holds (.integer 18446744073709551615) ∧
      Number64.Holds (.integer (-9223372036854775808)) ∧
      (Number64.ofNumber (.integer 18446744073709551615)).order
        (Number64.ofNumber (.integer (-9223372036854775808))) = .gt ∧
      Json.parse (Number.integer (-9223372036854775808)).text =
        .ok (.number (.integer (-9223372036854775808))) := by
  intro type schema range length i inverted negative l ranged measured t u id name
  obtain ⟨hrange, hlength, hrun, hwords, htext⟩ := integer_bounds_exact
  have hgains (i : Interval) :
      (schema "id" [type "integer"]).Amends "id" "range" i.bounds.toJson (range i) :=
    ⟨[], [], _, _, ⟨[type "integer"], by decide⟩,
      ⟨[("range", i.bounds.toJson), type "integer"], by simp [type]⟩, rfl, rfl, rfl, rfl, .refl _⟩
  have hgains' (i : Interval) :
      (schema "name" [type "string"]).Amends "name" "length" i.bounds.toJson (length i) :=
    ⟨[], [], _, _, ⟨[type "string"], by decide⟩,
      ⟨[("length", i.bounds.toJson), type "string"], by simp [type]⟩, rfl, rfl, rfl, rfl, .refl _⟩
  have hinverted : inverted.Inverted := by decide
  have hnegative : ¬ negative.Inverted ∧ negative.HasNegative := by decide
  have hi : ¬ i.Inverted := by decide
  have hl : ¬ (¬ l.Inverted ∧ l.HasNegative) := by decide
  have hbelow : i.Below 9007199254740992 ∧ ¬ i.Contains 9007199254740992 := by
    rw [Interval.contains_iff]
    decide
  have habove : l.Above 3 ∧ ¬ l.Contains 3 := by
    rw [Interval.contains_iff]
    decide
  have hlarge : Number64.Holds (.integer 18446744073709551615) := ⟨by decide, by decide⟩
  have hsmall : Number64.Holds (.integer (-9223372036854775808)) := ⟨by decide, by decide⟩
  have ht : Template.compile (range i) = .ok t := rfl
  have hu : Template.compile (length l) = .ok u := rfl
  obtain ⟨r, hr, hlocates⟩ := (hrun _ t ht "id" _ i .disabled id (List.mem_singleton_self _)
    nofun).1 9007199254740992 rfl rfl
  obtain ⟨r', hr', hlocates'⟩ := (hrun _ u hu "name" _ l .disabled name
    (List.mem_singleton_self _) nofun).2 (.string "ééé") 3 rfl rfl (.string "ééé")
  refine ⟨hgains, hgains', (hrange _ _ _ _ _ (hgains inverted) rfl).1.mpr hinverted,
    (hlength _ _ _ _ _ (hgains' negative) rfl).2.1.mpr hnegative,
    mt (hrange _ _ _ _ _ (hgains i) rfl).1.mp hi, ht,
    ⟨r, hr, hlocates.invalid.mpr hbelow.2, hlocates.below.mpr hbelow.1⟩,
    mt (hlength _ _ _ _ _ (hgains' l) rfl).2.1.mp hl, hu,
    ⟨r', hr', hlocates'.invalid.mpr habove.2, hlocates'.above.mpr habove.1⟩,
    hlarge, hsmall, ?_, (htext _ hsmall).2⟩
  exact ((hwords _ hlarge).2.2 _ hsmall).trans rfl

end PayloadCheck
