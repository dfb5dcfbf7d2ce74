import PayloadCheck.Proofs.Quotations

/-!
# Reading documents back

What `Json.render` writes is read by `Json.parse`. A value is read together with any text behind it
that cannot go on a numeral (`Decodes`), so items and members are read one after the other: of an
array by the items, of an object by the states that the members lead through (`Fills`).

* `Json.reads_arrayChars`, `Json.reads_objectChars`: the parts of an array and of an object, for any
  reader of items and of members;
* `Json.decodes_value`: a plain value, inside brackets that are open;
* `Json.parse_render`: a text that holds a plain value and nothing else.
-/

namespace PayloadCheck

/-- The text of a value is read as something, whatever stands behind it that ends a numeral. -/
def Decodes {α : Type} (r : Reader α) (j : Json) (a : α) : Prop :=
  ∀ rest, Numeral.Ends rest → Reads r (j.chars ++ rest) a rest

namespace Numeral

theorem ends_of_closes {c : Char} (h : c = ',' ∨ c = ']' ∨ c = '\x7d') (rest : List Char) :
    Ends (c :: rest) := by
  rcases h with rfl | rfl | rfl <;>
    exact ⟨by simp [isDigit], by simp, by simp⟩

end Numeral

variable {α σ : Type}

theorem Reads.mapped {β : Type} {r : Reader α} {s rest : List Char} {a : α}
    (h : Reads r s a rest) (f : α → β) :
    Reads (fun s => do let t ← r s; return t.map f) s (f a) rest := by
  obtain ⟨hlt, hr⟩ := h
  refine ⟨hlt, ?_⟩
  simp only [hr]
  rfl

theorem Decodes.mapped {β : Type} {r : Reader α} {j : Json} {a : α} (h : Decodes r j a)
    (f : α → β) : Decodes (fun s => do let t ← r s; return t.map f) j (f a) :=
  fun rest he => (h rest he).mapped f

namespace Json

variable {s s' u rest : List Char}

theorem skipBlank_cons {c : Char} (h : isBlank c = false) (s : List Char) :
    skipBlank (c :: s) = c :: s := by
  rw [skipBlank, List.dropWhile_cons, h]
  rfl

theorem reads_unblanked_cons {r : Reader α} {c : Char} {a : α} (hc : isBlank c = false)
    (h : Reads r (c :: s) a rest) : Reads (unblanked r) (c :: s) a rest := by
  apply reads_unblanked
  rwa [skipBlank_cons hc]

/-! ## Arrays -/

/-- The text starts with something that is no blank and closes no array. -/
def Opens (s : List Char) : Prop := ∃ c cs, s = c :: cs ∧ isBlank c = false ∧ c ≠ ']'

theorem Opens.append (h : Opens s) (rest : List Char) : Opens (s ++ rest) := by
  obtain ⟨c, cs, rfl, hblank, hclose⟩ := h
  exact ⟨c, cs ++ rest, rfl, hblank, hclose⟩

/-- The text of a value, which cannot be taken for the end of an array. -/
def Starts (j : Json) : Prop := Opens j.chars

theorem starts_string (t : String) : Starts (.string t) := ⟨'"', _, rfl, rfl, by decide⟩

theorem starts_integer (n : Int) : Starts (.number (.integer n)) := by
  obtain ⟨c, cs, hc, hstart⟩ := exists_integerChars n
  exact ⟨c, cs, hc, isBlank_of_starts hstart, ne_of_starts hstart (by decide) rfl⟩

theorem starts_array (items : List Json) : Starts (.array items) := by
  cases items with
  | nil => exact ⟨'[', _, rfl, rfl, by decide⟩
  | cons item items => exact ⟨'[', _, rfl, rfl, by decide⟩

theorem starts_object (members : List (String × Json)) : Starts (.object members) := by
  cases members with
  | nil => exact ⟨'\x7b', _, rfl, rfl, by decide⟩
  | cons member members => exact ⟨'\x7b', _, rfl, rfl, by decide⟩

section Arrays

variable {item : Reader α} {a : α} {as : List α}

theorem reads_items_close (item : Reader α) (first : Bool) (rest : List Char) :
    Reads (items item first) (']' :: rest) [] rest := by
  refine ⟨Nat.lt_succ_self _, ?_⟩
  rw [items]
  rfl

theorem reads_items_first (ho : Opens s) (h : Reads item s a s')
    (hs : Reads (items item false) s' as rest) :
    Reads (items item true) s (a :: as) rest := by
  obtain ⟨c, s, rfl, hblank, hclose⟩ := ho
  obtain ⟨hlt, hitem⟩ := h
  obtain ⟨hlt', hitems⟩ := hs
  refine ⟨Nat.lt_trans hlt' hlt, ?_⟩
  rw [items]
  split
  · next h => rw [skipBlank_cons hblank] at h; cases h
  · next d u h =>
    rw [skipBlank_cons hblank] at h
    cases h
    simp only [hclose, hitem, hitems, bind, Except.bind, ↓reduceIte]
    rfl

theorem reads_items_next (ho : Opens s) (h : Reads item s a s')
    (hs : Reads (items item false) s' as rest) :
    Reads (items item false) (',' :: s) (a :: as) rest := by
  obtain ⟨c, s, rfl, hblank, hclose⟩ := ho
  have hskip : skipBlank (c :: s) = c :: s := skipBlank_cons hblank s
  -- What is read stands behind the blanks, of which there are none.
  rw [← hskip] at h
  obtain ⟨hlt, hitem⟩ := h
  obtain ⟨hlt', hitems⟩ := hs
  have hle : (skipBlank (c :: s)).length ≤ (c :: s).length := length_skipBlank_le (c :: s)
  refine ⟨Nat.lt_succ_of_lt (Nat.lt_trans hlt' (Nat.lt_of_lt_of_le hlt hle)), ?_⟩
  rw [items]
  split
  · next h => cases h
  · next d u h =>
    cases h
    rw [if_neg (by decide), if_neg (by decide), if_pos rfl]
    split
    · next r h =>
      rw [hskip] at h
      exact absurd (List.cons.inj h).1 hclose
    · simp only [hitem, hitems, bind, Except.bind]
      rfl

/-- An array after its opening bracket. -/
def arrayChars : List Json → List Char
  | [] => [']']
  | item :: rest => item.chars ++ itemChars rest

theorem chars_array (items : List Json) : (array items).chars = '[' :: arrayChars items := by
  cases items with
  | nil => rfl
  | cons item items => rfl

theorem ends_itemChars (items : List Json) (rest : List Char) :
    Numeral.Ends (itemChars items ++ rest) := by
  cases items with
  | nil => exact Numeral.ends_of_closes (.inr (.inl rfl)) _
  | cons item items => exact Numeral.ends_of_closes (.inl rfl) _

variable {encode : α → Json}

theorem reads_itemChars (hs : ∀ a ∈ as, Starts (encode a))
    (hr : ∀ a ∈ as, Decodes item (encode a) a) (rest : List Char) :
    Reads (items item false) (itemChars (as.map encode) ++ rest) as rest := by
  induction as with
  | nil => exact reads_items_close item false rest
  | cons a as ih =>
    obtain ⟨hstart, hs⟩ := List.forall_mem_cons.mp hs
    obtain ⟨hread, hr⟩ := List.forall_mem_cons.mp hr
    have hitem := hread _ (ends_itemChars (as.map encode) rest)
    rw [List.map_cons, itemChars, List.cons_append, List.cons_append, List.append_assoc]
    exact reads_items_next (hstart.append _) hitem (ih hs hr)

/-- The items of an array, whatever it is that they are read as. -/
theorem reads_arrayChars (hs : ∀ a ∈ as, Starts (encode a))
    (hr : ∀ a ∈ as, Decodes item (encode a) a) (rest : List Char) :
    Reads (items item true) (arrayChars (as.map encode) ++ rest) as rest := by
  cases as with
  | nil => exact reads_items_close item true rest
  | cons a as =>
    obtain ⟨hstart, hs⟩ := List.forall_mem_cons.mp hs
    obtain ⟨hread, hr⟩ := List.forall_mem_cons.mp hr
    have hitem := hread _ (ends_itemChars (as.map encode) rest)
    rw [List.map_cons, arrayChars, List.append_assoc]
    exact reads_items_first (hstart.append _) hitem (reads_itemChars hs hr rest)

end Arrays

/-! ## Objects -/

section Objects

variable {field : Member σ} {state next last : σ} {key : String} {value : Json} {r : Reader σ}
  {ms : List (String × Json)}

/-- The members lead from a state to another, each by the reader that its key asks for. -/
inductive Fills (field : Member σ) : σ → List (String × Json) → σ → Prop
  | nil (state : σ) : Fills field state [] state
  | cons {state next last : σ} {key : String} {value : Json} {ms : List (String × Json)}
      {r : Reader σ} (hkey : field state key = .ok r) (hread : Decodes r value next)
      (h : Fills field next ms last) : Fills field state ((key, value) :: ms) last

/-- A member after the opening quote of its key. -/
def pairChars (key : String) (value : Json) : List Char :=
  key.toList.flatMap quotedChar ++ '"' :: ':' :: value.chars

/-- An object after its opening brace. -/
def objectChars : List (String × Json) → List Char
  | [] => ['\x7d']
  | (key, value) :: rest => '"' :: pairChars key value ++ memberChars rest

theorem chars_object (ms : List (String × Json)) :
    (object ms).chars = '\x7b' :: objectChars ms := by
  cases ms with
  | nil => rfl
  | cons member ms =>
    simp only [chars, objectChars, pairChars, quoted, List.cons_append, List.append_assoc,
      List.nil_append]

theorem memberChars_cons (key : String) (value : Json) (ms : List (String × Json)) :
    memberChars ((key, value) :: ms) = ',' :: '"' :: pairChars key value ++ memberChars ms := by
  simp only [memberChars, pairChars, quoted, List.cons_append, List.append_assoc, List.nil_append]

theorem ends_memberChars (ms : List (String × Json)) (rest : List Char) :
    Numeral.Ends (memberChars ms ++ rest) := by
  cases ms with
  | nil => exact Numeral.ends_of_closes (.inr (.inr rfl)) _
  | cons member ms => exact Numeral.ends_of_closes (.inl rfl) _

theorem colon_cons (s : List Char) : colon (':' :: s) = .ok ⟨s, Nat.lt_succ_self _⟩ := rfl

theorem reads_pairChars (hkey : field state key = .ok r) (h : Reads r (value.chars ++ s) next s') :
    Reads (member field state) (pairChars key value ++ s) next s' := by
  obtain ⟨hlt, hvalue⟩ := h
  obtain ⟨hlt', hquoted⟩ := Quoted.reads_quoted key (':' :: value.chars ++ s)
  have htext : pairChars key value ++ s =
      key.toList.flatMap quotedChar ++ '"' :: (':' :: value.chars ++ s) := by
    simp only [pairChars, List.cons_append, List.append_assoc]
  rw [htext]
  refine ⟨Nat.lt_trans (Nat.lt_succ_of_lt hlt) hlt', ?_⟩
  simp only [member, hquoted, hkey, bind, Except.bind]
  simp only [List.cons_append, colon_cons, hvalue]
  rfl

theorem reads_members_close (field : Member σ) (first : Bool) (state : σ) (rest : List Char) :
    Reads (members field first state) ('\x7d' :: rest) state rest := by
  refine ⟨Nat.lt_succ_self _, ?_⟩
  rw [members]
  rfl

theorem reads_members_first (h : Reads (member field state) s next s')
    (hs : Reads (members field false next) s' last rest) :
    Reads (members field true state) ('"' :: s) last rest := by
  obtain ⟨hlt, hmember⟩ := h
  obtain ⟨hlt', hmembers⟩ := hs
  refine ⟨Nat.lt_succ_of_lt (Nat.lt_trans hlt' hlt), ?_⟩
  rw [members]
  split
  · next h => cases h
  · next d u h =>
    cases h
    rw [if_neg (by decide), if_pos rfl, if_pos rfl]
    simp only [hmember, hmembers, bind, Except.bind]
    rfl

theorem reads_members_next (h : Reads (member field state) s next s')
    (hs : Reads (members field false next) s' last rest) :
    Reads (members field false state) (',' :: '"' :: s) last rest := by
  obtain ⟨hlt, hmember⟩ := h
  obtain ⟨hlt', hmembers⟩ := hs
  refine ⟨Nat.lt_succ_of_lt (Nat.lt_succ_of_lt (Nat.lt_trans hlt' hlt)), ?_⟩
  rw [members]
  split
  · next h => cases h
  · next d u h =>
    cases h
    rw [if_neg (by decide), if_neg (by decide), if_pos rfl]
    split
    · next h => cases h
    · next key h =>
      cases h
      simp only [hmember, hmembers, bind, Except.bind]
      rfl
    · next r h => cases h
    · next hquote _ => exact absurd rfl (hquote s)

theorem reads_memberChars (h : Fills field state ms last) (rest : List Char) :
    Reads (members field false state) (memberChars ms ++ rest) last rest := by
  induction h with
  | nil state => exact reads_members_close field false state rest
  | @cons state next last key value ms r hkey hread _ ih =>
    have hvalue := hread _ (ends_memberChars ms rest)
    have hpair := reads_pairChars hkey hvalue
    rw [memberChars_cons, List.append_assoc]
    exact reads_members_next hpair ih

/-- The members of an object, whatever it is that they are read into. -/
theorem reads_objectChars (h : Fills field state ms last) (rest : List Char) :
    Reads (members field true state) (objectChars ms ++ rest) last rest := by
  cases h with
  | nil => exact reads_members_close field true state rest
  | @cons _ next _ key value ms r hkey hread h =>
    have hvalue := hread _ (ends_memberChars ms rest)
    have hpair := reads_pairChars hkey hvalue
    rw [objectChars, List.append_assoc]
    exact reads_members_first hpair (reads_memberChars h rest)

end Objects

/-! ## Values -/

/-- A value that its text tells in full: integers fit 64 bits, there are no doubles, no key of an
object comes twice, and brackets nest at most so deep. -/
inductive Plain : Nat → Json → Prop
  | null {depth : Nat} : Plain depth .null
  | bool {depth : Nat} (b : Bool) : Plain depth (.bool b)
  | integer {depth : Nat} {n : Int} (h : -2 ^ 63 ≤ n ∧ n < 2 ^ 64) :
      Plain depth (.number (.integer n))
  | string {depth : Nat} (t : String) : Plain depth (.string t)
  | array {depth : Nat} {items : List Json} (h : ∀ item ∈ items, Plain depth item) :
      Plain (depth + 1) (.array items)
  | object {depth : Nat} {members : List (String × Json)} (hkeys : (members.map Prod.fst).Nodup)
      (h : ∀ member ∈ members, Plain depth member.2) : Plain (depth + 1) (.object members)

theorem Plain.starts {depth : Nat} {j : Json} (h : Plain depth j) : Starts j := by
  cases h with
  | null => exact ⟨'n', _, rfl, rfl, by decide⟩
  | bool b => cases b <;> exact ⟨_, _, rfl, rfl, by decide⟩
  | integer _ => exact starts_integer _
  | string t => exact starts_string t
  | array _ => exact starts_array _
  | object _ _ => exact starts_object _

theorem put_of_not_mem {key : String} {gathered : List (String × Json)}
    (h : key ∉ gathered.map Prod.fst) (value : Json) :
    put key value gathered = gathered ++ [(key, value)] := by
  induction gathered with
  | nil => rfl
  | cons member gathered ih =>
    rw [List.map_cons, List.mem_cons, not_or] at h
    rw [put, if_neg (Ne.symm h.1), ih h.2, List.cons_append]

/-- Members with keys of their own are gathered as they come. -/
theorem fills_gather {r : Reader Json} {gathered ms : List (String × Json)}
    (hkeys : ((gathered ++ ms).map Prod.fst).Nodup) (h : ∀ m ∈ ms, Decodes r m.2 m.2) :
    Fills (gather r) gathered ms (gathered ++ ms) := by
  induction ms generalizing gathered with
  | nil =>
    rw [List.append_nil]
    exact .nil gathered
  | cons member ms ih =>
    obtain ⟨key, value⟩ := member
    obtain ⟨hvalue, hrest⟩ := List.forall_mem_cons.mp h
    have hsplit : gathered ++ (key, value) :: ms = gathered ++ [(key, value)] ++ ms := by
      rw [List.append_assoc, List.cons_append, List.nil_append]
    -- A key that came before would keep its old place.
    have hnew : key ∉ gathered.map Prod.fst := by
      rw [List.map_append, List.nodup_append] at hkeys
      intro hmem
      exact hkeys.2.2 key hmem key List.mem_cons_self rfl
    have hput : put key value gathered = gathered ++ [(key, value)] := put_of_not_mem hnew value
    rw [hsplit, ← hput] at hkeys ⊢
    exact .cons rfl (hvalue.mapped fun v => put key v gathered) (ih hkeys hrest)

section Values

variable {depth : Nat} {j : Json} {c : Char}

/-- Where a scalar starts, the reader of scalars reads. -/
theorem reads_value_scalar (hc : isBlank c = false) (hlt : rest.length < (c :: s).length)
    (h : scalar? (c :: s) = some (.ok ⟨j, rest, hlt⟩)) :
    Reads (value depth) (c :: s) j rest := by
  unfold value
  apply reads_unblanked_cons hc
  refine ⟨hlt, ?_⟩
  simp only [h]

theorem reads_value_array {items : List Json}
    (h : Reads (Json.items (value depth) true) s items rest) :
    Reads (value (depth + 1)) ('[' :: s) (.array items) rest := by
  obtain ⟨hlt, hitems⟩ := h
  rw [value]
  apply reads_unblanked_cons rfl
  refine ⟨Nat.lt_succ_of_lt hlt, ?_⟩
  have hscalar : scalar? ('[' :: s) = none := rfl
  simp only [hscalar, hitems, bind, Except.bind, ↓reduceIte]
  rfl

theorem reads_value_object {ms : List (String × Json)}
    (h : Reads (members (gather (value depth)) true []) s ms rest) :
    Reads (value (depth + 1)) ('\x7b' :: s) (.object ms) rest := by
  obtain ⟨hlt, hmembers⟩ := h
  rw [value]
  apply reads_unblanked_cons rfl
  refine ⟨Nat.lt_succ_of_lt hlt, ?_⟩
  have hscalar : scalar? ('\x7b' :: s) = none := rfl
  simp only [hscalar, hmembers, bind, Except.bind]
  rfl

theorem chars_string_append (t : String) (rest : List Char) :
    (Json.string t).chars ++ rest = '"' :: (t.toList.flatMap quotedChar ++ '"' :: rest) := by
  simp only [chars, quoted, List.cons_append, List.append_assoc, List.nil_append]

theorem reads_value_string (t : String) (rest : List Char) :
    Reads (value depth) ((Json.string t).chars ++ rest) (.string t) rest := by
  obtain ⟨hlt, hquoted⟩ := Quoted.reads_quoted t rest
  rw [chars_string_append]
  apply reads_value_scalar rfl (Nat.lt_succ_of_lt hlt)
  have hscalar : scalar? ('"' :: (t.toList.flatMap quotedChar ++ '"' :: rest)) =
      some ((Quoted.read (t.toList.flatMap quotedChar ++ '"' :: rest)).map fun u =>
        (u.map Json.string).afterFirst '"') := rfl
  rw [hscalar, hquoted]
  rfl

end Values

/-- A plain value is read as itself. -/
theorem decodes_value {depth : Nat} {j : Json} (h : Plain depth j) : Decodes (value depth) j j := by
  -- Each bracket takes one from the depth, of a plain value as of the reader.
  induction h with
  | null =>
    intro rest _
    have hlt : rest.length < rest.length + 4 := by omega
    exact reads_value_scalar rfl hlt rfl
  | bool b =>
    intro rest _
    cases b with
    | true =>
      have hlt : rest.length < rest.length + 4 := by omega
      exact reads_value_scalar rfl hlt rfl
    | false =>
      have hlt : rest.length < rest.length + 5 := by omega
      exact reads_value_scalar rfl hlt rfl
  | @integer depth n h => exact fun rest he => reads_integer h he depth
  | string t => exact fun rest _ => reads_value_string t rest
  | @array depth items h ih =>
    intro rest _
    have hitems : Reads (Json.items (value depth) true) (arrayChars (items.map id) ++ rest)
        items rest := reads_arrayChars (fun item hm => (h item hm).starts) ih rest
    rw [List.map_id] at hitems
    rw [chars_array]
    exact reads_value_array hitems
  | @object depth members hkeys h ih =>
    intro rest _
    have hfills : Fills (gather (value depth)) [] members ([] ++ members) := fills_gather hkeys ih
    have hmembers := reads_objectChars hfills rest
    rw [chars_object]
    exact reads_value_object hmembers

/-! ## Documents -/

/-- A text that holds one value and nothing else. -/
theorem readText_render {r : Reader α} {j : Json} {a : α} (h : Decodes r j a) :
    readText r j.render = .ok a := by
  obtain ⟨hlt, hread⟩ := h [] Numeral.ends_nil
  have htext : j.render.toList = j.chars ++ [] := by
    rw [render, String.toList_ofList, List.append_nil]
  unfold readText document
  rw [htext, hread]
  rfl

theorem parse_render {j : Json} (h : Plain nesting j) : parse j.render = .ok j :=
  readText_render (decodes_value h)

end Json

end PayloadCheck
