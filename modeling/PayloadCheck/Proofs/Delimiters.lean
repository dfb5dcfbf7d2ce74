import PayloadCheck.Schema.Pattern

/-!
# Delimited patterns

What a pattern is made of. `Pattern.Delimited` is the form between slashes with flags behind them,
as a grammar read from the left, while the cut is made at the last slash.

* `delimited?_eq_some_iff`: the cut finds the form exactly where a source has it, and
  `Delimited.unique`: no source has it in two ways, though a body may hold slashes;
* `flagsOf_eq`: of the flags it only matters which of `i`, `m`, `s` and `x` are among them;
* `built_from_body_and_options`: so two sources with one body and the same of these flags are built
  alike, whatever builds them.
-/

namespace PayloadCheck

namespace Pattern

/-- The source stands between slashes, with flags behind the second. -/
structure Delimited (source body flags : String) : Prop where
  eq : source = "/" ++ body ++ "/" ++ flags
  flags : ∀ c ∈ flags.toList, c ∈ ['i', 'm', 's', 'x', 'u']

/-- The body and the flags of a source. One that is not delimited is all body. -/
inductive Parts (source : String) : String → String → Prop
  | delimited {body flags : String} (h : Delimited source body flags) : Parts source body flags
  | bare (h : ∀ body flags, ¬ Delimited source body flags) : Parts source source ""

/-- The flags give the same of the options that there are. -/
def SameOptions (flags flags' : String) : Prop :=
  ∀ c ∈ ['i', 'm', 's', 'x'], c ∈ flags.toList ↔ c ∈ flags'.toList

/-- Something that builds matchers: from four options, which are the cases of letters, the lines,
what the dot reads and the blanks, and from a body. -/
abbrev Engine (ρ : Type) := (caseless multiLine dotAll verbose : Bool) → (body : String) → Option ρ

/-- What an engine builds from a source. -/
def buildBy {ρ : Type} (engine : Engine ρ) (source : String) : Option ρ :=
  let (body, letters) := (delimited? source.toList).getD (source.toList, [])
  let flags := flagsOf letters
  engine flags.caseless flags.multiLine flags.dotAll flags.verbose (String.ofList body)

/-! ## The cut -/

theorem cutAtLastSlash_eq_none_iff (s : List Char) : cutAtLastSlash s = none ↔ '/' ∉ s := by
  induction s with
  | nil => simp [cutAtLastSlash]
  | cons c rest ih =>
    rw [cutAtLastSlash, List.mem_cons, not_or, ← ih, eq_comm]
    cases hr : cutAtLastSlash rest with
    | some cut => simp
    | none => simp [eq_comm]

theorem of_cutAtLastSlash {s body after : List Char} (h : cutAtLastSlash s = some (body, after)) :
    s = body ++ '/' :: after ∧ '/' ∉ after := by
  induction s generalizing body with
  | nil => cases h
  | cons c rest ih =>
    rw [cutAtLastSlash] at h
    split at h
    · rename_i left right hr
      cases h
      obtain ⟨rfl, hn⟩ := ih hr
      exact ⟨rfl, hn⟩
    · rename_i hr
      split at h
      · rename_i hc
        cases h
        exact ⟨congrArg (· :: _) hc, (cutAtLastSlash_eq_none_iff _).mp hr⟩
      · cases h

theorem cutAtLastSlash_append {after : List Char} (h : '/' ∉ after) (body : List Char) :
    cutAtLastSlash (body ++ '/' :: after) = some (body, after) := by
  induction body with
  | nil => simp [cutAtLastSlash, (cutAtLastSlash_eq_none_iff after).mpr h]
  | cons c body ih => rw [List.cons_append, cutAtLastSlash, ih]

theorem slash_notMem_of_flags {flags : List Char} (h : ∀ c ∈ flags, isFlag c = true) :
    '/' ∉ flags := by
  intro hs
  have hf := h '/' hs
  cases hf

theorem delimited?_eq_some (source body flags : List Char) :
    delimited? source = some (body, flags) ↔
      source = '/' :: body ++ '/' :: flags ∧ ∀ c ∈ flags, isFlag c = true := by
  constructor
  · intro h
    unfold delimited? at h
    split at h
    · split at h
      · rename_i hcut
        split at h
        · rename_i hall
          cases h
          obtain ⟨rfl, -⟩ := of_cutAtLastSlash hcut
          exact ⟨rfl, List.all_eq_true.mp hall⟩
        · cases h
      · cases h
    · cases h
  · rintro ⟨rfl, hf⟩
    have hcut := cutAtLastSlash_append (slash_notMem_of_flags hf) body
    rw [List.cons_append, delimited?, hcut]
    exact if_pos (List.all_eq_true.mpr hf)

/-! ## The form -/

theorem toList_delimited (body flags : String) :
    ("/" ++ body ++ "/" ++ flags).toList = '/' :: body.toList ++ '/' :: flags.toList := by
  simp

theorem delimited?_eq_some_iff (source body flags : String) :
    delimited? source.toList = some (body.toList, flags.toList) ↔ Delimited source body flags := by
  have hflag (c : Char) : isFlag c = true ↔ c ∈ ['i', 'm', 's', 'x', 'u'] := by simp [isFlag]
  rw [delimited?_eq_some, ← toList_delimited, String.toList_inj]
  simp only [hflag]
  exact ⟨fun h => ⟨h.1, h.2⟩, fun h => ⟨h.eq, h.flags⟩⟩

/-- One slash delimits nothing, two delimit nothing but an empty body, and a path is no flag. -/
example :
    delimited? "/".toList = none ∧ delimited? "//".toList = some ([], []) ∧
      delimited? "/api/users".toList = none := by decide

theorem Delimited.unique {source body flags body' flags' : String}
    (h : Delimited source body flags) (h' : Delimited source body' flags') :
    body = body' ∧ flags = flags' := by
  have he := (delimited?_eq_some_iff source body flags).mpr h
  rw [(delimited?_eq_some_iff source body' flags').mpr h', Option.some.injEq, Prod.mk.injEq,
    String.toList_inj, String.toList_inj] at he
  exact ⟨he.1.symm, he.2.symm⟩

/-- The cut leaves nothing else: a source without it is not delimited. -/
theorem parts_iff (source body flags : String) :
    Parts source body flags ↔
      (delimited? source.toList).getD (source.toList, []) = (body.toList, flags.toList) := by
  constructor
  · intro h
    cases h with
    | delimited h => rw [(delimited?_eq_some_iff source body flags).mpr h, Option.getD_some]
    | bare h =>
      have hnone : delimited? source.toList = none := by
        rw [Option.eq_none_iff_forall_ne_some]
        rintro ⟨left, right⟩ he
        have hd := delimited?_eq_some_iff source (String.ofList left) (String.ofList right)
        rw [String.toList_ofList, String.toList_ofList] at hd
        exact h _ _ (hd.mp he)
      rw [hnone]
      rfl
  · intro h
    cases he : delimited? source.toList with
    | some parts =>
      rw [he, Option.getD_some] at h
      rw [h] at he
      exact .delimited ((delimited?_eq_some_iff source body flags).mp he)
    | none =>
      rw [he, Option.getD_none, Prod.mk.injEq, String.toList_inj] at h
      obtain ⟨rfl, hf⟩ := h
      obtain rfl : "" = flags := String.toList_inj.mp hf
      refine .bare fun body flags hd => ?_
      rw [(delimited?_eq_some_iff source body flags).mpr hd] at he
      cases he

theorem exists_parts (source : String) : ∃ body flags, Parts source body flags := by
  rcases hp : (delimited? source.toList).getD (source.toList, []) with ⟨body, flags⟩
  refine ⟨String.ofList body, String.ofList flags, ?_⟩
  rw [parts_iff, hp, String.toList_ofList, String.toList_ofList]

theorem Parts.unique {source body flags body' flags' : String} (h : Parts source body flags)
    (h' : Parts source body' flags') : body = body' ∧ flags = flags' := by
  rw [parts_iff] at h h'
  rw [h', Prod.mk.injEq, String.toList_inj, String.toList_inj] at h
  exact ⟨h.1.symm, h.2.symm⟩

/-! ## The options -/

theorem withFlag_eq (flags : Regex.Flags) (c : Char) :
    withFlag flags c =
      { flags with
        caseless := flags.caseless || 'i' == c
        multiLine := flags.multiLine || 'm' == c
        dotAll := flags.dotAll || 's' == c
        verbose := flags.verbose || 'x' == c } := by
  unfold withFlag
  split
  · simp
  · simp
  · simp
  · simp
  · rename_i hi hm hs hx
    simp [beq_false_of_ne (Ne.symm hi), beq_false_of_ne (Ne.symm hm),
      beq_false_of_ne (Ne.symm hs), beq_false_of_ne (Ne.symm hx)]

theorem foldl_withFlag (letters : List Char) (flags : Regex.Flags) :
    letters.foldl withFlag flags =
      { flags with
        caseless := flags.caseless || letters.contains 'i'
        multiLine := flags.multiLine || letters.contains 'm'
        dotAll := flags.dotAll || letters.contains 's'
        verbose := flags.verbose || letters.contains 'x' } := by
  induction letters generalizing flags with
  | nil => simp
  | cons c rest ih => simp only [List.foldl_cons, ih, withFlag_eq, List.contains_cons, Bool.or_assoc]

theorem flagsOf_eq (letters : List Char) :
    flagsOf letters =
      { caseless := letters.contains 'i'
        multiLine := letters.contains 'm'
        dotAll := letters.contains 's'
        verbose := letters.contains 'x' } := by
  simp [flagsOf, foldl_withFlag]

theorem SameOptions.contains_eq {flags flags' : String} (h : SameOptions flags flags') {c : Char}
    (hc : c ∈ ['i', 'm', 's', 'x']) : flags.toList.contains c = flags'.toList.contains c := by
  rw [Bool.eq_iff_iff, List.contains_iff_mem, List.contains_iff_mem]
  exact h c hc

/-! ## What is built -/

theorem buildBy_of_parts {ρ : Type} {source body flags : String} (h : Parts source body flags)
    (engine : Engine ρ) :
    buildBy engine source =
      engine (flags.toList.contains 'i') (flags.toList.contains 'm') (flags.toList.contains 's')
        (flags.toList.contains 'x') body := by
  rw [buildBy, (parts_iff source body flags).mp h]
  simp only [flagsOf_eq, String.ofList_toList]

theorem buildBy_congr {ρ : Type} {source source' body flags flags' : String}
    (h : Parts source body flags) (h' : Parts source' body flags') (hs : SameOptions flags flags')
    (engine : Engine ρ) : buildBy engine source = buildBy engine source' := by
  rw [buildBy_of_parts h, buildBy_of_parts h', hs.contains_eq (c := 'i') (by simp),
    hs.contains_eq (c := 'm') (by simp), hs.contains_eq (c := 's') (by simp),
    hs.contains_eq (c := 'x') (by simp)]

/-- The engine that patterns are built by: the options without a letter stay as they are. -/
def engine : Engine (Regex.Program Regex.Leaf) := fun caseless multiLine dotAll verbose body =>
  Regex.compile? { caseless, multiLine, dotAll, verbose } body

theorem compile?_eq_buildBy (source : String) :
    compile? source = (buildBy engine source).map fun program => ⟨source, program⟩ := by
  simp only [compile?, buildBy, engine, flagsOf_eq]

theorem compile?_congr {source source' body flags flags' : String} (h : Parts source body flags)
    (h' : Parts source' body flags') (hs : SameOptions flags flags') :
    (compile? source).isSome = (compile? source').isSome ∧
      ∀ p ∈ compile? source, ∀ p' ∈ compile? source', ∀ text, p.isMatch text = p'.isMatch text := by
  rw [compile?_eq_buildBy, compile?_eq_buildBy, buildBy_congr h h' hs]
  cases buildBy engine source' with
  | none => exact ⟨rfl, nofun⟩
  | some program =>
    refine ⟨rfl, fun p hp p' hp' text => ?_⟩
    obtain rfl := Option.mem_some_iff.mp hp
    obtain rfl := Option.mem_some_iff.mp hp'
    rfl

/-- A source is cut where it has the delimited form, which it has in one way at most, and else it
is all body. What is built depends on the body and on which of the four options the flags give. -/
theorem built_from_body_and_options :
    (∀ source body flags : String,
      delimited? source.toList = some (body.toList, flags.toList) ↔
        Delimited source body flags) ∧
    (∀ source body flags body' flags' : String, Delimited source body flags →
      Delimited source body' flags' → body = body' ∧ flags = flags') ∧
    (∀ source : String, ∃ body flags, Parts source body flags ∧
      ∀ body' flags', Parts source body' flags' → body = body' ∧ flags = flags') ∧
    (∀ {ρ : Type} (build : Engine ρ) (source body flags : String), Parts source body flags →
      buildBy build source =
        build (flags.toList.contains 'i') (flags.toList.contains 'm') (flags.toList.contains 's')
          (flags.toList.contains 'x') body) ∧
    (∀ source : String,
      compile? source = (buildBy engine source).map fun program => ⟨source, program⟩) ∧
    ∀ source source' body flags flags' : String, Parts source body flags →
      Parts source' body flags' → SameOptions flags flags' →
        (compile? source).isSome = (compile? source').isSome ∧
          ∀ p ∈ compile? source, ∀ p' ∈ compile? source', ∀ text,
            p.isMatch text = p'.isMatch text := by
  refine ⟨delimited?_eq_some_iff, fun _ _ _ _ _ h h' => h.unique h', fun source => ?_,
    fun build _ _ _ h => buildBy_of_parts h build, compile?_eq_buildBy,
    fun _ _ _ _ _ h h' hs => compile?_congr h h' hs⟩
  obtain ⟨body, flags, h⟩ := exists_parts source
  exact ⟨body, flags, h, fun _ _ h' => h.unique h'⟩

/-- A body with a slash in it, with the flags once and again in another order and more often. -/
theorem built_from_body_and_options_repeated :
    Delimited "/a/b/mi" "a/b" "mi" ∧ Parts "/a/b/mi" "a/b" "mi" ∧
      Parts "/a/b/uimmi" "a/b" "uimmi" ∧ SameOptions "mi" "uimmi" ∧
      (compile? "/a/b/mi").isSome = (compile? "/a/b/uimmi").isSome := by
  have h : Delimited "/a/b/mi" "a/b" "mi" := ⟨rfl, by simp⟩
  have h' : Delimited "/a/b/uimmi" "a/b" "uimmi" := ⟨rfl, by simp⟩
  have hs : SameOptions "mi" "uimmi" := by simp [SameOptions]
  exact ⟨h, .delimited h, .delimited h', hs,
    (built_from_body_and_options.2.2.2.2.2 _ _ _ _ _ (.delimited h) (.delimited h') hs).1⟩

end Pattern

end PayloadCheck
