import PayloadCheck.Proofs.KeyCount

/-!
# The text of a path

`Path.dotted` writes a path by the places of its segments: a key has a dot before it unless it comes
first. `Path.text` asks for the text so far instead, and behind empty keys that is as empty as at
the start.

* `Path.foldl_append`: the text so far is empty as long as there are only empty keys, so a key lacks
  its dot where these stand before it;
* `Path.text_eq_dotted_iff`: this is the dotted rendering unless the path starts with an empty key
  and one more key;
* `Path.text_eq_dotted_dropWhile`: in any case it is that of the path without the empty keys it
  starts with;
* `text_dotted_unless_blank_start`: so also for the verdict on the number of keys, whose path is a
  list of keys.
-/

namespace PayloadCheck

/-- A segment, where a key that is not set off has no dot before it. -/
def PathSegment.written (setOff : Bool) : PathSegment → String
  | .key name => if setOff then "." ++ name else name
  | .index i => "[" ++ toString i ++ "]"

namespace Path

/-- Each segment as its place has it: a key is set off unless it is in first place. -/
def dotted (p : Path) : String := String.join (p.mapIdx fun n s => s.written (n ≠ 0))

/-- Some segment before a place is more than an empty key. -/
def hasTextBefore (p : Path) (n : Nat) : Bool := (p.take n).any fun s => s ≠ .key ""

@[simp] theorem hasTextBefore_zero (p : Path) : p.hasTextBefore 0 = false := rfl

@[simp] theorem hasTextBefore_succ (s : PathSegment) (rest : Path) (n : Nat) :
    hasTextBefore (s :: rest) (n + 1) = (decide (s ≠ .key "") || rest.hasTextBefore n) := rfl

/-! ## The text so far -/

theorem append_eq (before : String) (s : PathSegment) :
    append before s = before ++ s.written (before ≠ "") := by
  cases s with
  | index i => rfl
  | key name =>
    by_cases h : before = ""
    · simp [append, PathSegment.written, h]
    · simp [append, PathSegment.written, h, String.append_assoc]

theorem append_eq_empty_iff (before : String) (s : PathSegment) :
    append before s = "" ↔ before = "" ∧ s = .key "" := by
  rw [append_eq, String.append_eq_empty_iff]
  cases s <;> simp +contextual [PathSegment.written]

/-- There is text before a segment if there was some at the start or a segment has added some. -/
theorem foldl_append (before : String) (p : Path) :
    p.foldl append before =
      before ++ String.join (p.mapIdx fun n s => s.written (before ≠ "" ∨ p.hasTextBefore n)) := by
  induction p generalizing before with
  | nil => simp
  | cons s rest ih =>
    have hhead : append before s =
        before ++ s.written (before ≠ "" ∨ hasTextBefore (s :: rest) 0) := by
      simp [append_eq]
    have hrest (n : Nat) : (append before s ≠ "" ∨ hasTextBefore rest n) ↔
        (before ≠ "" ∨ hasTextBefore (s :: rest) (n + 1)) := by
      simp only [Ne, append_eq_empty_iff, not_and_or, or_assoc, hasTextBefore_succ,
        Bool.or_eq_true, decide_eq_true_eq]
    simp only [List.foldl_cons, ih, List.mapIdx_cons, String.join_cons, hrest]
    rw [hhead, String.append_assoc]

theorem text_eq_join (p : Path) :
    text p = String.join (p.mapIdx fun n s => s.written (p.hasTextBefore n)) := by
  rw [text, foldl_append]
  simp

/-! ## The dotted rendering -/

theorem dotted_cons (s : PathSegment) (rest : Path) :
    dotted (s :: rest) = s.written false ++ String.join (rest.mapIdx fun _ t => t.written true) := by
  simp [dotted, List.mapIdx_cons, String.join_cons]

theorem text_blank_cons (rest : Path) : text (.key "" :: rest) = text rest := rfl

/-- Behind a segment that has text every key is set off. -/
theorem text_cons_of_ne {s : PathSegment} (h : s ≠ .key "") (rest : Path) :
    text (s :: rest) = dotted (s :: rest) := by
  have happend : append "" s = s.written false := by simp [append_eq]
  have hs : s.written false ≠ "" := by simp [← happend, append_eq_empty_iff, h]
  rw [text, List.foldl_cons, happend, foldl_append, dotted_cons]
  simp [hs]

theorem text_eq_dotted_dropWhile (p : Path) :
    text p = dotted (p.dropWhile fun s => s = .key "") := by
  induction p with
  | nil => rfl
  | cons s rest ih =>
    by_cases h : s = .key ""
    · rw [h, text_blank_cons, ih, List.dropWhile_cons_of_pos (by simp)]
    · rw [List.dropWhile_cons_of_neg (by simpa using h), text_cons_of_ne h]

theorem length_dotted_le (p : Path) : (dotted p).length ≤ (dotted (.key "" :: p)).length := by
  cases p with
  | nil => exact Nat.le_refl _
  | cons s rest =>
    have hs : (s.written false).length ≤ (s.written true).length := by
      cases s <;> simp [PathSegment.written]
    have hblank : (PathSegment.key "").written false = "" := rfl
    simp [dotted_cons, hblank, hs]

theorem length_text_le (p : Path) : (text p).length ≤ (dotted p).length := by
  induction p with
  | nil => exact Nat.le_refl _
  | cons s rest ih =>
    by_cases h : s = .key ""
    · rw [h, text_blank_cons]
      exact Nat.le_trans ih (length_dotted_le rest)
    · exact Nat.le_of_eq (congrArg String.length (text_cons_of_ne h rest))

/-- The key behind an empty first key lacks its dot. -/
theorem text_ne_dotted (name : String) (rest : Path) :
    text (.key "" :: .key name :: rest) ≠ dotted (.key "" :: .key name :: rest) := by
  intro h
  -- the text is that of the path behind the empty key, and no longer than the dotted one of that
  have hle := length_text_le (.key name :: rest)
  have hdot : ".".length = 1 := rfl
  rw [← text_blank_cons, h] at hle
  simp only [dotted_cons, PathSegment.written, List.mapIdx_cons, String.join_cons,
    String.length_append, reduceIte, Bool.false_eq_true] at hle
  omega

theorem text_eq_dotted_iff (p : Path) :
    text p = dotted p ↔ ¬ ∃ name, [.key "", .key name] <+: p := by
  constructor
  · rintro h ⟨name, rest, rfl⟩
    exact text_ne_dotted name rest h
  · intro h
    match p with
    | [] => rfl
    | s :: rest =>
      by_cases hs : s = .key ""
      · subst hs
        match rest with
        | [] => rfl
        | .key name :: rest => exact absurd ⟨name, rest, rfl⟩ h
        | .index i :: rest =>
          have hi : PathSegment.index i ≠ .key "" := nofun
          rw [text_blank_cons, text_cons_of_ne hi]
          simp [dotted_cons, PathSegment.written]
      · exact text_cons_of_ne hs rest

/-! ## Lists of keys -/

theorem dotted_keys (keys : List String) : dotted (keys.map .key) = ".".intercalate keys := by
  cases keys with
  | nil => rfl
  | cons first rest =>
    rw [List.map_cons, dotted_cons]
    induction rest generalizing first with
    | nil => simp [PathSegment.written]
    | cons second rest ih =>
      rw [String.intercalate_cons_cons, ← ih second]
      simp [PathSegment.written, String.append_assoc]

theorem text_keys (keys : List String) :
    text (keys.map .key) = ".".intercalate (keys.dropWhile fun key => key = "") := by
  rw [text_eq_dotted_dropWhile, List.dropWhile_map, ← dotted_keys]
  simp [Function.comp_def]

theorem text_keys_eq_iff (keys : List String) :
    text (keys.map .key) = ".".intercalate keys ↔ ¬ ∃ name, ["", name] <+: keys := by
  have hkey : Function.Injective PathSegment.key := fun _ _ => PathSegment.key.inj
  have hmap (name : String) :
      [PathSegment.key "", .key name] = ["", name].map PathSegment.key := rfl
  rw [← dotted_keys, text_eq_dotted_iff]
  simp only [hmap, List.prefix_map_iff_of_injective hkey]

end Path

/-- The text of a path has a dot before each key, unless only empty keys stand before it. So it is
the dotted rendering, in which the first key alone lacks the dot, exactly if no empty key comes
first with another key behind it. The keys in the verdict on their number are joined by dots under
the same condition, and otherwise without the empty key they start with. -/
theorem text_dotted_unless_blank_start (p : Path) :
    Path.text p = String.join (p.mapIdx fun n s => s.written (p.hasTextBefore n)) ∧
      (Path.text p = Path.dotted p ↔ ¬ ∃ name, [.key "", .key name] <+: p) ∧
      ∀ (l : KeyLimiter) (payload : Object),
        p = (l.verdict payload).path → (l.verdict payload).code = .invalidKeyLimiter →
        let keys := l.unknownKeys payload
        p = keys.map .key ∧
          Path.text p = ".".intercalate (keys.dropWhile fun key => key = "") ∧
          (Path.text p = ".".intercalate keys ↔ ¬ ∃ name, ["", name] <+: keys) := by
  refine ⟨p.text_eq_join, p.text_eq_dotted_iff, fun l payload hp h => ?_⟩
  intro keys
  have hkeys : p = keys.map .key := hp.trans (KeyLimiter.path_of_failing h)
  refine ⟨hkeys, ?_, ?_⟩
  · rw [hkeys]
    exact Path.text_keys keys
  · rw [hkeys]
    exact Path.text_keys_eq_iff keys

/-- Two keys too many, of which the first is empty: the dot between them is missing. -/
theorem blank_key_without_dot :
    let payload : Object :=
      ⟨[("", .number (.integer 1)), ("a", .number (.integer 2))], by decide⟩
    ∃ t, Template.compile .empty = .ok t ∧
      ∃ r, ((Plan.build t .schemaFields).execute payload .failFast .empty).failure = some r ∧
        r.code = .invalidKeyLimiter ∧ r.path = [.key "", .key "a"] ∧
        Path.text r.path = "a" ∧ Path.dotted r.path = ".a" ∧ ".".intercalate ["", "a"] = ".a" :=
  ⟨_, rfl, _, rfl, by decide⟩

/-- An empty key that is not the first of them is set off. -/
theorem text_dotted_unless_blank_start_last :
    let l : KeyLimiter := ⟨1, ["id"]⟩
    let payload : Object := ⟨[("id", .null), ("a", .null), ("", .null)], by decide⟩
    (l.verdict payload).code = .invalidKeyLimiter ∧
      (l.verdict payload).path = [.key "a", .key ""] ∧
      Path.text (l.verdict payload).path = ".".intercalate ["a", ""] := by
  intro l payload
  have hlist := (text_dotted_unless_blank_start (l.verdict payload).path).2.2 l payload rfl rfl
  refine ⟨rfl, rfl, hlist.2.2.mpr ?_⟩
  rintro ⟨name, hstart⟩
  have hblank : "" = "a" := (List.cons_prefix_cons.mp hstart).1
  exact absurd hblank (by decide)

end PayloadCheck
