import Mathlib.Tactic.SplitIfs
import PayloadCheck.Regex.Escape

/-!
# What sets of code points hold

The operations on sets work on ordered ranges. Here they are shown to keep the order and to hold
what their names say.

* `CodeSet.ordered_ofRanges`, `CodeSet.contains_ofRanges`: any ranges are brought into order, and
  the set holds what they cover;
* `CodeSet.contains_union`, `contains_complement`, `contains_inter`, `contains_diff`: the operations
  code point by code point;
* `CodeRule.contains_codes`: the set of a rule holds the code points for which the rule holds, read
  from its parts;
* `CodeSet.ordered_of_named?`, `CodeSet.ordered_of_valued?`: whatever can be asked for by name is
  ordered, and with it `Regex.Piece.property_negated`: a property and its negation split all code
  points;
* `Age.contains_through_mono`: what has an age in a version has one in every later version.
-/

namespace PayloadCheck

namespace CodeSet

variable {s t : CodeSet} {ranges rest : List (Nat × Nat)} {r current : Nat × Nat} {code : Nat}

/-! ## Ranges -/

/-- One of the ranges holds a code point. -/
def Covers (ranges : List (Nat × Nat)) (code : Nat) : Prop :=
  ∃ r ∈ ranges, r.1 ≤ code ∧ code ≤ r.2

/-- No range is empty, and there is a gap between any two. -/
structure Ordered (ranges : List (Nat × Nat)) : Prop where
  nonempty : ∀ r ∈ ranges, r.1 ≤ r.2
  ascending : ranges.Pairwise fun a b => a.2 + 1 < b.1

@[simp] theorem covers_nil : Covers [] code ↔ False := by simp [Covers]

@[simp] theorem covers_cons :
    Covers (r :: rest) code ↔ r.1 ≤ code ∧ code ≤ r.2 ∨ Covers rest code := by
  simp [Covers]

theorem contains_iff : s.contains code = true ↔ Covers s.ranges code := by
  simp [contains, Covers]

theorem ordered_nil : Ordered [] := ⟨by simp, .nil⟩

theorem ordered_cons :
    Ordered (r :: rest) ↔ r.1 ≤ r.2 ∧ (∀ b ∈ rest, r.2 + 1 < b.1) ∧ Ordered rest := by
  constructor
  · rintro ⟨hne, hp⟩
    obtain ⟨hgap, hp⟩ := List.pairwise_cons.mp hp
    exact ⟨hne r (by simp), hgap, fun b hb => hne b (by simp [hb]), hp⟩
  · rintro ⟨hr, hgap, hne, hp⟩
    refine ⟨?_, List.pairwise_cons.mpr ⟨hgap, hp⟩⟩
    intro b hb
    rcases List.mem_cons.mp hb with rfl | hb
    · exact hr
    · exact hne b hb

/-! ## Joining -/

theorem covers_join (hlow : ∀ b ∈ rest, current.1 ≤ b.1) (hp : rest.Pairwise fun a b => a.1 ≤ b.1) :
    Covers (join current rest) code ↔ Covers (current :: rest) code := by
  induction rest generalizing current with
  | nil => rfl
  | cons r rest ih =>
    obtain ⟨hnext, hp⟩ := List.pairwise_cons.mp hp
    have hr := hlow r (by simp)
    by_cases touch : r.1 ≤ current.2 + 1
    · have hjoined : ∀ b ∈ rest, (current.1, max current.2 r.2).1 ≤ b.1 :=
        fun b hb => hlow b (by simp [hb])
      simp only [join, if_pos touch]
      rw [ih hjoined hp]
      simp only [covers_cons, ← or_assoc]
      -- `r` starts within `current` or right behind it, so the two leave nothing out between them
      refine or_congr_left ?_
      omega
    · simp only [join, if_neg touch, covers_cons, ih hnext hp]

/-- A joined range starts where one of its parts does. -/
theorem start_of_mem_join {b : Nat × Nat} (hb : b ∈ join current rest) :
    ∃ a ∈ current :: rest, b.1 = a.1 := by
  induction rest generalizing current with
  | nil => exact ⟨b, hb, rfl⟩
  | cons r rest ih =>
    by_cases touch : r.1 ≤ current.2 + 1
    · simp only [join, if_pos touch] at hb
      obtain ⟨a, ha, hab⟩ := ih hb
      rcases List.mem_cons.mp ha with rfl | ha
      · exact ⟨current, by simp, hab⟩
      · exact ⟨a, by simp [ha], hab⟩
    · simp only [join, if_neg touch] at hb
      rcases List.mem_cons.mp hb with rfl | hb
      · exact ⟨b, by simp, rfl⟩
      · obtain ⟨a, ha, hab⟩ := ih hb
        exact ⟨a, List.mem_cons_of_mem _ ha, hab⟩

theorem ordered_join (hne : ∀ b ∈ current :: rest, b.1 ≤ b.2)
    (hp : rest.Pairwise fun a b => a.1 ≤ b.1) : Ordered (join current rest) := by
  induction rest generalizing current with
  | nil => exact ordered_cons.mpr ⟨hne current (by simp), by simp, ordered_nil⟩
  | cons r rest ih =>
    obtain ⟨hnext, hp⟩ := List.pairwise_cons.mp hp
    have hcurrent := hne current (by simp)
    by_cases touch : r.1 ≤ current.2 + 1
    · simp only [join, if_pos touch]
      refine ih ?_ hp
      intro b hb
      rcases List.mem_cons.mp hb with rfl | hb
      · exact Nat.le_trans hcurrent (Nat.le_max_left ..)
      · exact hne b (by simp [hb])
    · simp only [join, if_neg touch]
      refine ordered_cons.mpr ⟨hcurrent, ?_, ih (fun b hb => hne b (by simp [hb])) hp⟩
      intro b hb
      obtain ⟨a, ha, hab⟩ := start_of_mem_join hb
      have hra : r.1 ≤ a.1 := by
        rcases List.mem_cons.mp ha with rfl | ha
        · exact Nat.le_refl _
        · exact hnext a ha
      omega

theorem mem_sorted : r ∈ sorted ranges ↔ r ∈ ranges ∧ r.1 ≤ r.2 := by
  simp [sorted, (List.mergeSort_perm _ _).mem_iff]

theorem pairwise_sorted (ranges : List (Nat × Nat)) :
    (sorted ranges).Pairwise fun a b => a.1 ≤ b.1 := by
  have h : (sorted ranges).Pairwise fun a b => decide (a.1 ≤ b.1) = true :=
    List.pairwise_mergeSort (fun a b c => by simp; omega) (fun a b => by simp; omega) _
  simpa using h

theorem covers_sorted (ranges : List (Nat × Nat)) :
    Covers (sorted ranges) code ↔ Covers ranges code := by
  simp only [Covers, mem_sorted]
  constructor
  · rintro ⟨r, ⟨hr, -⟩, h⟩
    exact ⟨r, hr, h⟩
  · rintro ⟨r, hr, hlow, hhigh⟩
    exact ⟨r, ⟨hr, Nat.le_trans hlow hhigh⟩, hlow, hhigh⟩

theorem contains_ofRanges (ranges : List (Nat × Nat)) :
    (ofRanges ranges).contains code = true ↔ Covers ranges code := by
  have hp := pairwise_sorted ranges
  rw [contains_iff, ← covers_sorted ranges, ofRanges]
  split
  · next h => simp [h, empty]
  · next r rest h =>
    rw [h] at hp ⊢
    obtain ⟨hlow, hp⟩ := List.pairwise_cons.mp hp
    exact covers_join hlow hp

theorem ordered_ofRanges (ranges : List (Nat × Nat)) : Ordered (ofRanges ranges).ranges := by
  have hp := pairwise_sorted ranges
  rw [ofRanges]
  split
  · exact ordered_nil
  · next r rest h =>
    rw [h] at hp
    have hne : ∀ b ∈ r :: rest, b.1 ≤ b.2 := fun b hb => (mem_sorted.mp (h ▸ hb)).2
    exact ordered_join hne (List.pairwise_cons.mp hp).2

/-! ## Operations -/

/-- The gaps from `start` on cover what the ranges leave out. -/
theorem covers_gaps {start : Nat} (h : Ordered ranges) (hlow : ∀ b ∈ ranges, start ≤ b.1)
    (hlast : code ≤ last) :
    Covers (gaps start ranges) code ↔ start ≤ code ∧ ¬ Covers ranges code := by
  induction ranges generalizing start with
  | nil => simp only [gaps]; split <;> simp <;> omega
  | cons r rest ih =>
    obtain ⟨hr, hgap, hrest⟩ := ordered_cons.mp h
    have hstart := hlow r (by simp)
    have hnext : ∀ b ∈ rest, r.2 + 1 ≤ b.1 := fun b hb => Nat.le_of_lt (hgap b hb)
    have hbehind : Covers rest code → r.2 + 1 < code := by
      rintro ⟨b, hb, hlow, -⟩
      exact Nat.lt_of_lt_of_le (hgap b hb) hlow
    rw [covers_cons, gaps]
    -- the gap in front of `r` and those behind it, against `r` and the ranges behind it
    by_cases hc : Covers rest code
    · have := hbehind hc
      split <;> simp [ih hrest hnext, hc] <;> omega
    · split <;> simp [ih hrest hnext, hc] <;> omega

theorem ordered_gaps {start : Nat} (h : Ordered ranges) (hlow : ∀ b ∈ ranges, start ≤ b.1) :
    Ordered (gaps start ranges) ∧ ∀ b ∈ gaps start ranges, start ≤ b.1 := by
  induction ranges generalizing start with
  | nil =>
    simp only [gaps]
    split
    · next hs => exact ⟨ordered_cons.mpr ⟨hs, by simp, ordered_nil⟩, by simp⟩
    · exact ⟨ordered_nil, by simp⟩
  | cons r rest ih =>
    obtain ⟨hr, hgap, hrest⟩ := ordered_cons.mp h
    have hstart := hlow r (by simp)
    obtain ⟨hordered, hbehind⟩ := ih hrest fun b hb => Nat.le_of_lt (hgap b hb)
    simp only [gaps]
    split
    · next hs =>
      constructor
      · refine ordered_cons.mpr ⟨by simp; omega, ?_, hordered⟩
        intro b hb
        have := hbehind b hb
        simp
        omega
      · intro b hb
        rcases List.mem_cons.mp hb with rfl | hb
        · exact Nat.le_refl _
        · have := hbehind b hb
          omega
    · exact ⟨hordered, fun b hb => by have := hbehind b hb; omega⟩

theorem ordered_complement (hs : Ordered s.ranges) : Ordered s.complement.ranges :=
  (ordered_gaps hs fun _ _ => Nat.zero_le _).1

theorem contains_complement (hs : Ordered s.ranges) (hlast : code ≤ last) :
    s.complement.contains code = !s.contains code := by
  have h : s.complement.contains code = true ↔ ¬ s.contains code = true := by
    rw [contains_iff, contains_iff, complement, covers_gaps hs (fun _ _ => Nat.zero_le _) hlast]
    simp
  cases hc : s.contains code <;> simp_all

theorem ordered_union (s t : CodeSet) : Ordered (s.union t).ranges := ordered_ofRanges _

@[simp] theorem contains_union :
    (s.union t).contains code = (s.contains code || t.contains code) := by
  rw [Bool.eq_iff_iff, union, contains_ofRanges, Bool.or_eq_true, contains_iff, contains_iff]
  simp only [Covers, List.mem_append, or_and_right, exists_or]

theorem ordered_unions (sets : List CodeSet) : Ordered (unions sets).ranges := ordered_ofRanges _

@[simp] theorem contains_unions (sets : List CodeSet) :
    (unions sets).contains code = sets.any fun s => s.contains code := by
  rw [Bool.eq_iff_iff, unions, contains_ofRanges, List.any_eq_true]
  simp only [contains_iff, Covers, List.mem_flatMap]
  constructor
  · rintro ⟨r, ⟨s, hs, hr⟩, h⟩
    exact ⟨s, hs, r, hr, h⟩
  · rintro ⟨s, hs, r, hr, h⟩
    exact ⟨r, ⟨s, hs, hr⟩, h⟩

theorem ordered_inter (s t : CodeSet) : Ordered (s.inter t).ranges :=
  ordered_complement (ordered_union ..)

theorem contains_inter (hs : Ordered s.ranges) (ht : Ordered t.ranges) (hlast : code ≤ last) :
    (s.inter t).contains code = (s.contains code && t.contains code) := by
  rw [inter, contains_complement (ordered_union ..) hlast, contains_union,
    contains_complement hs hlast, contains_complement ht hlast, Bool.not_or, Bool.not_not,
    Bool.not_not]

theorem ordered_diff (s t : CodeSet) : Ordered (s.diff t).ranges :=
  ordered_complement (ordered_union ..)

theorem contains_diff (hs : Ordered s.ranges) (hlast : code ≤ last) :
    (s.diff t).contains code = (s.contains code && !t.contains code) := by
  rw [diff, contains_complement (ordered_union ..) hlast, contains_union,
    contains_complement hs hlast, Bool.not_or, Bool.not_not]

theorem contains_symmDiff (hs : Ordered s.ranges) (ht : Ordered t.ranges) (hlast : code ≤ last) :
    (s.symmDiff t).contains code = (s.contains code ^^ t.contains code) := by
  rw [symmDiff, contains_union, contains_diff hs hlast, contains_diff ht hlast]
  cases s.contains code <;> cases t.contains code <;> rfl

end CodeSet

/-! ## Rules -/

theorem Category.ordered_codes (c : Category) : CodeSet.Ordered c.codes.ranges :=
  CodeSet.ordered_ofRanges _

theorem Script.ordered_codes (s : Script) : CodeSet.Ordered s.codes.ranges :=
  CodeSet.ordered_ofRanges _

theorem Property.ordered_codes (p : Property) : CodeSet.Ordered p.codes.ranges :=
  CodeSet.ordered_diff ..

theorem Age.ordered_through (n : Nat) : CodeSet.Ordered (Age.through n).ranges :=
  CodeSet.ordered_unions _

theorem Property.contains_codes (p : Property) {code : Nat} (hlast : code ≤ CodeSet.last) :
    p.codes.contains code =
      ((p.categories.any (fun c => c.codes.contains code) ||
        (CodeSet.ofText p.added).contains code) &&
          !(CodeSet.ofText p.removed).contains code) := by
  rw [Property.codes, CodeSet.contains_diff (CodeSet.ordered_union ..) hlast,
    CodeSet.contains_union, CodeSet.ofCategories, CodeSet.contains_unions, List.any_map]
  rfl

namespace CodeRule

/-- Whether a rule holds for a code point, decided from its parts. -/
def holds (code : Nat) : CodeRule → Bool
  | text ranges => (CodeSet.ofText ranges).contains code
  | category c => c.codes.contains code
  | property p => p.codes.contains code
  | script s => s.codes.contains code
  | union l r => l.holds code || r.holds code
  | inter l r => l.holds code && r.holds code
  | sdiff l r => l.holds code && !r.holds code

theorem ordered_codes (rule : CodeRule) : CodeSet.Ordered rule.codes.ranges := by
  cases rule with
  | text ranges => exact CodeSet.ordered_ofRanges _
  | category c => exact c.ordered_codes
  | property p => exact p.ordered_codes
  | script s => exact s.ordered_codes
  | union l r => exact CodeSet.ordered_union ..
  | inter l r => exact CodeSet.ordered_inter ..
  | sdiff l r => exact CodeSet.ordered_diff ..

theorem contains_codes (rule : CodeRule) {code : Nat} (hlast : code ≤ CodeSet.last) :
    rule.codes.contains code = rule.holds code := by
  induction rule with
  | text ranges => rfl
  | category c => rfl
  | property p => rfl
  | script s => rfl
  | union l r hl hr => rw [codes, holds, CodeSet.contains_union, hl, hr]
  | inter l r hl hr =>
    rw [codes, holds, CodeSet.contains_inter l.ordered_codes r.ordered_codes hlast, hl, hr]
  | sdiff l r hl hr => rw [codes, holds, CodeSet.contains_diff l.ordered_codes hlast, hl, hr]

end CodeRule

/-! ## Names -/

namespace CodeSet

variable {s : CodeSet} {name value loose : String}

theorem ordered_of_map {α : Type} {f : α → CodeSet} {found : Option α}
    (hf : ∀ a, Ordered (f a).ranges) (h : found.map f = some s) : Ordered s.ranges := by
  obtain ⟨a, -, rfl⟩ := Option.map_eq_some_iff.mp h
  exact hf a

theorem ordered_of_ofProperty? (h : ofProperty? loose = some s) : Ordered s.ranges := by
  rw [ofProperty?] at h
  exact ordered_of_map Property.ordered_codes h

theorem ordered_of_ofCategory? (h : ofCategory? loose = some s) : Ordered s.ranges := by
  simp only [ofCategory?] at h
  split_ifs at h
  · cases h
    exact ordered_cons.mpr ⟨Nat.zero_le _, by simp, ordered_nil⟩
  · cases h
    exact ordered_cons.mpr ⟨Nat.zero_le _, by simp, ordered_nil⟩
  · cases h
    exact ordered_complement (Category.ordered_codes _)
  · exact ordered_of_map (fun _ => ordered_unions _) h

theorem ordered_of_ofScript? (h : ofScript? loose = some s) : Ordered s.ranges := by
  rw [ofScript?] at h
  exact ordered_of_map Script.ordered_codes h

theorem ordered_of_ofExtendedScript? (h : ofExtendedScript? loose = some s) :
    Ordered s.ranges := by
  rw [ofExtendedScript?] at h
  exact ordered_of_map (fun _ => ordered_diff ..) h

theorem ordered_of_ofAge? (h : ofAge? loose = some s) : Ordered s.ranges := by
  rw [ofAge?] at h
  -- `ordered_of_map` would have the table of ages evaluated here
  obtain ⟨i, -, rfl⟩ := Option.map_eq_some_iff.mp h
  exact Age.ordered_through _

theorem ordered_of_ofBreak? {classes : List BreakClass} (h : ofBreak? classes loose = some s) :
    Ordered s.ranges := by
  rw [ofBreak?] at h
  exact ordered_of_map (fun b => b.rule.ordered_codes) h

theorem ordered_of_named? (h : named? name = some s) : Ordered s.ranges := by
  simp only [named?, Option.orElse_eq_orElse, Option.orElse_eq_or, Option.or_eq_some_iff] at h
  rcases h with hproperty | ⟨-, hcategory | ⟨-, hscript⟩⟩
  · split_ifs at hproperty
    exact ordered_of_ofProperty? hproperty
  · exact ordered_of_ofCategory? hcategory
  · exact ordered_of_ofScript? hscript

theorem ordered_of_valued? (h : valued? name value = some s) : Ordered s.ranges := by
  simp only [valued?] at h
  split_ifs at h
  · exact ordered_of_ofCategory? h
  · exact ordered_of_ofScript? h
  · exact ordered_of_ofExtendedScript? h
  · exact ordered_of_ofAge? h
  · exact ordered_of_ofBreak? h
  · exact ordered_of_ofBreak? h
  · exact ordered_of_ofBreak? h

theorem ordered_foldCase (s : CodeSet) : Ordered s.foldCase.ranges := ordered_ofRanges _

end CodeSet

namespace Regex.Piece

open CodeSet

theorem eq_some_of_map_pair {found : Option CodeSet} {s : CodeSet} {asked negation : Bool}
    (h : (found.map fun t => (t, asked)) = some (s, negation)) : found = some s := by
  obtain ⟨t, ht, heq⟩ := Option.map_eq_some_iff.mp h
  cases heq
  exact ht

theorem ordered_of_namedSet {name : List Char} {s : CodeSet} {negation : Bool}
    (h : namedSet name = some (s, negation)) : Ordered s.ranges := by
  rw [namedSet] at h
  split at h
  · exact ordered_of_valued? (eq_some_of_map_pair h)
  · split at h
    · exact ordered_of_valued? (eq_some_of_map_pair h)
    · exact ordered_of_named? (eq_some_of_map_pair h)

/-- The set of a property and whether its name asks for the complement, with the text behind it. -/
def propertySet (flags : Flags) (cs : List Char) : Option ((CodeSet × Bool) × List Char) :=
  match Scan.skip flags cs with
  | [] => none
  | '\\' :: _ => none
  | '\x7b' :: rest =>
    (Scan.untilBrace flags false rest).bind fun (name, left) =>
      (namedSet name).map fun found => (found, left)
  | c :: rest => (CodeSet.named? (String.singleton c)).map fun s => ((s, false), rest)

theorem property_eq (flags : Flags) (negated : Bool) (cs : List Char) :
    property flags negated cs = (propertySet flags cs).bind fun ((s, negation), left) =>
      if flags.unicode then
        let s := if flags.caseless then s.foldCase else s
        some (set (if negated != negation then s.complement else s), left)
      else none := by
  simp only [property, propertySet]
  generalize Scan.skip flags cs = text
  split
  · rfl
  · rfl
  · simp [Option.bind_assoc, Option.bind_map, Function.comp_def]
  · simp [Option.bind_map, Function.comp_def]

theorem ordered_of_propertySet {flags : Flags} {cs left : List Char} {s : CodeSet}
    {negation : Bool} (h : propertySet flags cs = some ((s, negation), left)) :
    Ordered s.ranges := by
  rw [propertySet] at h
  split at h
  · cases h
  · cases h
  · obtain ⟨⟨name, text⟩, -, h⟩ := Option.bind_eq_some_iff.mp h
    obtain ⟨found, hfound, heq⟩ := Option.map_eq_some_iff.mp h
    cases heq
    exact ordered_of_namedSet hfound
  · obtain ⟨t, ht, heq⟩ := Option.map_eq_some_iff.mp h
    cases heq
    exact ordered_of_named? ht

/-- A property and its negation stand for sets that split all code points, with the same text left
behind them. -/
theorem property_negated {flags : Flags} {cs left : List Char} {piece : Piece}
    (h : property flags false cs = some (piece, left)) :
    ∃ s t, piece = .set s ∧ property flags true cs = some (.set t, left) ∧
      ∀ code ≤ last, t.contains code = !s.contains code := by
  rw [property_eq] at h ⊢
  obtain ⟨⟨⟨s, negation⟩, text⟩, hset, h⟩ := Option.bind_eq_some_iff.mp h
  have hs := ordered_of_propertySet hset
  have hfolded : Ordered (if flags.caseless then s.foldCase else s).ranges := by
    split
    · exact ordered_foldCase s
    · exact hs
  simp only [hset, Option.bind_some] at h ⊢
  by_cases hunicode : flags.unicode = true
  · rw [if_pos hunicode] at h
    simp only [if_pos hunicode]
    generalize (if flags.caseless = true then s.foldCase else s) = folded at h hfolded ⊢
    cases negation with
    | false =>
      cases h
      refine ⟨folded, folded.complement, rfl, rfl, ?_⟩
      intro code hlast
      exact contains_complement hfolded hlast
    | true =>
      cases h
      refine ⟨folded.complement, folded, rfl, rfl, ?_⟩
      intro code hlast
      rw [contains_complement hfolded hlast, Bool.not_not]
  · simp [hunicode] at h

end Regex.Piece

/-! ## Ages -/

theorem Age.contains_through_mono {m n code : Nat} (h : m ≤ n)
    (hm : (Age.through m).contains code = true) : (Age.through n).contains code = true := by
  simp only [Age.through, CodeSet.contains_unions, List.any_map, List.any_eq_true] at hm ⊢
  obtain ⟨a, ha, hcode⟩ := hm
  exact ⟨a, List.take_subset_take_left _ h ha, hcode⟩

end PayloadCheck
