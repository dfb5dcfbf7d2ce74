import PayloadCheck.Check.Basic

/-!
# Guards

`Check.Guarded` says which values, or which absence, each check is asked about. `contributionBy` is
the contribution of a check where a respondent answers in its place: it gives the answer where the
check is guarded, and asks nothing elsewhere (`contributionBy_of_guarded`,
`contributionBy_of_not_guarded`).
-/

namespace PayloadCheck

namespace Check

/-- What a check is asked about: absence is for the check on presence alone, and the others have
their kinds of values. -/
inductive Guarded : Check → Option Json → Prop
  | required (flag : Bool) (value : Option Json) : Guarded (required flag) value
  | nullable (flag : Bool) : Guarded (nullable flag) (some .null)
  | notBlank (v : Json) : Guarded notBlank (some v)
  | type (t : FieldType) (v : Json) (h : t ≠ .scalar .any) : Guarded (type t) (some v)
  | range (b : Bounds) (n : Number) : Guarded (range b) (some (.number n))
  | lengthOfString (b : Bounds) (s : String) : Guarded (length b) (some (.string s))
  | lengthOfArray (b : Bounds) (items : List Json) : Guarded (length b) (some (.array items))
  | regexOfString (p : Pattern) (s : String) : Guarded (regex p) (some (.string s))
  | regexOfNumber (p : Pattern) (n : Number) : Guarded (regex p) (some (.number n))
  | regexOfArray (p : Pattern) (items : List Json) : Guarded (regex p) (some (.array items))

/-- Answers in place of the checks. -/
abbrev Respondent := Check → Option Json → Path → List Verdict

/-- The contribution of a check, with the answer of a respondent where the check would be asked. -/
def contributionBy (ask : Respondent) (c : Check) (value : Option Json) (path : Path) :
    List Verdict × Bool :=
  match c, value with
  | required _, _ => (ask c value path, value.isNone)
  | _, none => ([], true)
  | nullable _, some v => if v.isNull then (ask c value path, true) else ([], false)
  | notBlank, some _ => (ask c value path, false)
  | type t, some _ => if t.isAny then ([], true) else (ask c value path, false)
  | _, some v => (if c.appliesTo v.kind then ask c value path else [], false)

/-- In a run the checks answer for themselves. -/
theorem contributionBy_verdicts (c : Check) (value : Option Json) (path : Path) :
    contributionBy verdicts c value path = c.contribution value path := by
  cases c <;> cases value <;> rfl

/-! ## When the respondent is asked -/

variable {c : Check} {value : Option Json}

theorem contributionBy_of_guarded (h : c.Guarded value) (ask : Respondent) (path : Path) :
    (contributionBy ask c value path).1 = ask c value path := by
  cases h with
  | type t v h => simp [contributionBy, FieldType.isAny, h]
  | range b n => cases n <;> rfl
  | regexOfNumber p n => cases n <;> rfl
  | _ => rfl

/-- The kinds of values for which a check is made are those with a guard. -/
theorem guarded_of_isNumeric {v : Json} (h : v.kind.isNumeric = true) (b : Bounds) :
    (range b).Guarded (some v) := by
  cases v with
  | number n => exact .range b n
  | _ => cases h

theorem guarded_of_isSized {v : Json} (h : v.kind.isSized = true) (b : Bounds) :
    (length b).Guarded (some v) := by
  cases v with
  | string s => exact .lengthOfString b s
  | array items => exact .lengthOfArray b items
  | number n => cases n <;> cases h
  | _ => cases h

theorem guarded_of_isTextual {v : Json} (h : (v.kind.isTextual || v.kind = .array) = true)
    (p : Pattern) : (regex p).Guarded (some v) := by
  cases v with
  | string s => exact .regexOfString p s
  | number n => exact .regexOfNumber p n
  | array items => exact .regexOfArray p items
  | _ => cases h

theorem contributionBy_of_not_guarded (h : ¬ c.Guarded value) (ask : Respondent) (path : Path) :
    (contributionBy ask c value path).1 = [] := by
  cases value with
  | none =>
    cases c with
    | required flag => exact absurd (.required flag none) h
    | _ => rfl
  | some v =>
    cases c with
    | required flag => exact absurd (.required flag (some v)) h
    | nullable flag =>
      cases v with
      | null => exact absurd (.nullable flag) h
      | _ => rfl
    | notBlank => exact absurd (.notBlank v) h
    | type t =>
      have ht : t.isAny = true := by
        cases hany : t.isAny with
        | true => rfl
        | false => exact absurd (.type t v (by simpa [FieldType.isAny] using hany)) h
      simp [contributionBy, ht]
    | range b => exact if_neg fun hk => h (guarded_of_isNumeric hk b)
    | length b => exact if_neg fun hk => h (guarded_of_isSized hk b)
    | regex p => exact if_neg fun hk => h (guarded_of_isTextual hk p)

/-- Whether the field is decided does not depend on the answers. -/
theorem contributionBy_snd (ask₁ ask₂ : Respondent) (c : Check) (value : Option Json)
    (path : Path) :
    (contributionBy ask₁ c value path).2 = (contributionBy ask₂ c value path).2 := by
  cases value with
  | none => cases c <;> rfl
  | some v =>
    cases c with
    | nullable flag => cases v <;> rfl
    | type t => cases h : t.isAny <;> simp [contributionBy, h]
    | _ => rfl

/-- Respondents that agree on guarded values are as good as each other. -/
theorem contributionBy_congr {ask₁ ask₂ : Respondent}
    (h : ∀ c value path, c.Guarded value → ask₁ c value path = ask₂ c value path) (c : Check)
    (value : Option Json) (path : Path) :
    contributionBy ask₁ c value path = contributionBy ask₂ c value path := by
  apply Prod.ext
  · by_cases hg : c.Guarded value
    · rw [contributionBy_of_guarded hg, contributionBy_of_guarded hg, h c value path hg]
    · rw [contributionBy_of_not_guarded hg, contributionBy_of_not_guarded hg]
  · exact contributionBy_snd ask₁ ask₂ c value path

/-- What a check contributes, it has said about a guarded value. -/
theorem guarded_of_mem_contribution {path : Path} {r : Verdict}
    (h : r ∈ (c.contribution value path).1) : c.Guarded value ∧ r ∈ c.verdicts value path := by
  rw [← contributionBy_verdicts] at h
  by_cases hg : c.Guarded value
  · rw [contributionBy_of_guarded hg] at h
    exact ⟨hg, h⟩
  · rw [contributionBy_of_not_guarded hg] at h
    cases h

end Check

end PayloadCheck
