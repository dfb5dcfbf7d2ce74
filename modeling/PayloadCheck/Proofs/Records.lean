import PayloadCheck.Json.Decoder
import PayloadCheck.Proofs.Documents

/-!
# Decoding what was written

Each decoder reads what is written for it: a string, a natural number, a list of what its items are
read from, an alternative by its name or with what it carries, and a record by its fields. A record
is written field by field in their order, so each field is read from the record that the fields
before it have filled (`Decoder.Record.Writes`).
-/

namespace PayloadCheck

namespace Decoder

open Json (quotedChar pairChars reads_unblanked_cons)

variable {α σ : Type} {s rest : List Char}

/-! ## Scalars -/

theorem reads_text (wanted t : String) (rest : List Char) :
    Reads (text wanted) ('"' :: (t.toList.flatMap quotedChar ++ '"' :: rest)) t rest := by
  obtain ⟨hlt, hquoted⟩ := Quoted.reads_quoted t rest
  apply reads_unblanked_cons rfl
  refine ⟨Nat.lt_succ_of_lt hlt, ?_⟩
  simp only [hquoted, bind, Except.bind]
  rfl

theorem decodes_text (wanted t : String) : Decodes (text wanted) (.string t) t := by
  intro rest _
  rw [Json.chars_string_append]
  exact reads_text wanted t rest

theorem decodes_natural (wanted : String) {n : Nat} (h : n ≤ Numeral.largestUnsigned) :
    Decodes (natural wanted) (.number (.integer n)) n := by
  intro rest he
  have hmax : Numeral.largestUnsigned = 2 ^ 64 - 1 := rfl
  have hbounds : -2 ^ 63 ≤ (n : Int) ∧ (n : Int) < 2 ^ 64 := by omega
  have hread := Numeral.reads_integerChars hbounds he
  obtain ⟨c, cs, hc, hstart⟩ := Json.exists_integerChars n
  have hnumber : startsNumber (c :: (cs ++ rest)) = true := by
    simpa [startsNumber] using hstart
  show Reads (natural wanted) (Number.integerChars n ++ rest) n rest
  rw [hc, List.cons_append] at hread ⊢
  obtain ⟨hlt, hnumeral⟩ := hread
  apply reads_unblanked_cons (Json.isBlank_of_starts hstart)
  refine ⟨hlt, ?_⟩
  simp only [hnumber, hnumeral, bind, Except.bind, ↓reduceIte, if_pos (Int.natCast_nonneg n),
    Int.toNat_natCast]
  rfl

/-! ## Sequences -/

theorem decodes_list (wanted : String) {item : Reader α} {encode : α → Json} {as : List α}
    (hs : ∀ a ∈ as, (encode a).Starts) (hr : ∀ a ∈ as, Decodes item (encode a) a) :
    Decodes (list wanted item) (.array (as.map encode)) as := by
  intro rest _
  obtain ⟨hlt, hitems⟩ := Json.reads_arrayChars hs hr rest
  rw [Json.chars_array, List.cons_append]
  apply reads_unblanked_cons rfl
  refine ⟨Nat.lt_succ_of_lt hlt, ?_⟩
  simp only [hitems, bind, Except.bind]
  rfl

/-! ## Alternatives -/

section Alternatives

variable {choices : Choices α} {name : String} {a : α}

/-- Where names are distinct, each chooses the alternative that it stands with. -/
theorem choose_of_mem (hnames : (choices.map Prod.fst).Nodup) {chosen : Choice α}
    (h : (name, chosen) ∈ choices) (rest : List Char) : choose choices name rest = .ok chosen := by
  have hlookup : choices.lookup name = some chosen := by
    induction choices with
    | nil => cases h
    | cons first choices ih =>
      obtain ⟨key, held⟩ := first
      rw [List.map_cons, List.nodup_cons] at hnames
      rw [List.lookup_cons]
      rcases List.mem_cons.mp h with heq | hlater
      · obtain ⟨rfl, rfl⟩ := Prod.mk.inj heq
        simp
      · have hmem : name ∈ choices.map Prod.fst := List.mem_map_of_mem hlater
        have hne : (name == key) = false := beq_false_of_ne fun e => hnames.1 (e ▸ hmem)
        rw [hne]
        exact ih hnames.2 hlater
  rw [choose, hlookup]

theorem decodes_choice_bare (hnames : (choices.map Prod.fst).Nodup)
    (h : (name, .bare a) ∈ choices) : Decodes (choice choices) (.string name) a := by
  intro rest _
  obtain ⟨hlt, hquoted⟩ := Quoted.reads_quoted name rest
  rw [Json.chars_string_append]
  apply reads_unblanked_cons rfl
  refine ⟨Nat.lt_succ_of_lt hlt, ?_⟩
  simp only [hquoted, choose_of_mem hnames h, bind, Except.bind, ↓reduceIte]
  rfl

theorem decodes_choice_carrying (hnames : (choices.map Prod.fst).Nodup) {r : Reader α} {j : Json}
    (h : (name, .carrying r) ∈ choices) (hr : Decodes r j a) :
    Decodes (choice choices) (.object [(name, j)]) a := by
  intro rest _
  obtain ⟨hlt, hname⟩ := reads_text "variant identifier" name (':' :: (j.chars ++ '\x7d' :: rest))
  obtain ⟨hlt', hvalue⟩ := hr ('\x7d' :: rest) (Numeral.ends_of_closes (.inr (.inr rfl)) rest)
  have htext : (Json.object [(name, j)]).chars ++ rest = '\x7b' :: '"' ::
      (name.toList.flatMap quotedChar ++ '"' :: ':' :: (j.chars ++ '\x7d' :: rest)) := by
    rw [Json.chars_object]
    simp only [Json.objectChars, Json.memberChars, pairChars, List.cons_append, List.append_assoc,
      List.nil_append]
  rw [htext]
  apply reads_unblanked_cons rfl
  refine ⟨?_, ?_⟩
  · simp only [List.length_cons] at hlt hlt' ⊢
    omega
  · simp only [hname, choose_of_mem hnames h, Json.colon_cons, hvalue, bind, Except.bind]
    rfl

end Alternatives

/-! ## Records -/

namespace Record

/-- Members are written for fields, one for each and in their order. -/
inductive Writes : List (Field σ) → σ → List (String × Json) → σ → Prop
  | nil (state : σ) : Writes [] state [] state
  | cons {f : Field σ} {fields : List (Field σ)} {state next last : σ} {j : Json}
      {ms : List (String × Json)} (hread : Decodes (f.read state) j next)
      (h : Writes fields next ms last) : Writes (f :: fields) state ((f.name, j) :: ms) last

/-- A field that has not been read is read for the member with its name. -/
theorem member_of_fresh {r : Record σ} {f : Field σ} {filling : Filling σ}
    (hfind : r.fields.find? (fun g => g.name = f.name) = some f) (hnew : f.name ∉ filling.given) :
    r.member filling f.name = .ok fun s => do
      let t ← f.read filling.value s
      return t.map fun value => ⟨value, f.name :: filling.given⟩ := by
  have hgiven : ¬ filling.given.contains f.name = true := by simpa using hnew
  simp only [member, hfind, if_neg hgiven]

/-- The names of the fields that have been read are given, the last of them first. -/
theorem fills_member {r : Record σ} (hnames : r.names.Nodup) (before : List (Field σ))
    {fields : List (Field σ)} {state last : σ} {ms : List (String × Json)}
    (hr : r.fields = before ++ fields) (h : Writes fields state ms last) :
    Json.Fills r.member ⟨state, (before.map Field.name).reverse⟩ ms ⟨last, r.names.reverse⟩ := by
  induction h generalizing before with
  | nil state =>
    rw [names, hr, List.append_nil]
    exact .nil _
  | @cons f fields state next last j ms hread _ ih =>
    have hfresh : ∀ g ∈ before, g.name ≠ f.name := by
      rw [names, hr, List.map_append, List.nodup_append] at hnames
      exact fun g hg => hnames.2.2 g.name (List.mem_map_of_mem hg) f.name List.mem_cons_self
    have hfind : r.fields.find? (fun g => g.name = f.name) = some f := by
      rw [hr, List.find?_append, List.find?_eq_none.mpr (by simpa using hfresh), Option.none_or,
        List.find?_cons_of_pos (by simp)]
    have hnew : f.name ∉ (before.map Field.name).reverse := by
      simpa using hfresh
    have hsplit : r.fields = before ++ [f] ++ fields := by
      rw [hr, List.append_assoc, List.cons_append, List.nil_append]
    have hnext := ih (before ++ [f]) hsplit
    rw [List.map_append, List.reverse_append] at hnext
    exact .cons (member_of_fresh hfind hnew) (hread.mapped _) hnext

theorem missing?_of_given {r : Record σ} {filling : Filling σ}
    (h : ∀ name ∈ r.names, name ∈ filling.given) : r.missing? filling = none := by
  unfold missing?
  split
  · rfl
  · exact List.find?_eq_none.mpr (by simpa using h)

/-- A record is read from what is written for its fields, if these have names of their own. -/
theorem decodes_read {r : Record σ} {ms : List (String × Json)} {last : σ} (hnames : r.names.Nodup)
    (h : Writes r.fields r.start ms last) : Decodes r.read (.object ms) last := by
  intro rest _
  have hfills : Json.Fills r.member ⟨r.start, []⟩ ms ⟨last, r.names.reverse⟩ :=
    fills_member hnames [] rfl h
  have hmissing : r.missing? ⟨last, r.names.reverse⟩ = none :=
    missing?_of_given fun name hn => List.mem_reverse.mpr hn
  obtain ⟨hlt, hmembers⟩ := Json.reads_objectChars hfills rest
  rw [Json.chars_object, List.cons_append]
  apply reads_unblanked_cons rfl
  refine ⟨Nat.lt_succ_of_lt hlt, ?_⟩
  simp only [ofObject, hmembers, bind, Except.bind, hmissing]
  rfl

end Record

end Decoder

end PayloadCheck
