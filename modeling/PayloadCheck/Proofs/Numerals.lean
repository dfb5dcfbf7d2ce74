import Mathlib.Algebra.Group.Int.Defs
import PayloadCheck.Json.Reader

/-!
# Reading integers

An integer is written by `Number.integerChars` and read by `Numeral.read`. What is read is what was
written, as long as the integer fits 64 bits, whatever text stands behind it that cannot go on the
numeral.

* `Numeral.addWhole_toDigits`: the digits of a number come to the number;
* `Numeral.reads_integerChars`: an integer is read as it was written;
* `Json.parse_integer`: a text that holds nothing else is that integer.
-/

namespace PayloadCheck

/-- The reader takes a value from the front of the text and leaves the rest. -/
def Reads {α : Type} (r : Reader α) (s : List Char) (a : α) (rest : List Char) : Prop :=
  ∃ h, r s = .ok ⟨a, rest, h⟩

namespace Numeral

/-- Nothing stands here that a numeral could go on with. -/
structure Ends (rest : List Char) : Prop where
  digit : ∀ c ∈ rest.head?, isDigit c = false
  point : ∀ c ∈ rest.head?, c ≠ '.'
  mark : ∀ c ∈ rest.head?, c ≠ 'e' ∧ c ≠ 'E'

theorem ends_nil : Ends [] := ⟨nofun, nofun, nofun⟩

/-! ## Digits -/

theorem isDigit_of_mem_toDigits {n : Nat} {c : Char} (h : c ∈ Nat.toDigits 10 n) :
    isDigit c = true := by
  have hc : c.isDigit = true := Nat.isDigit_of_mem_toDigits (by decide) (by decide) h
  simpa [Char.isDigit, isDigit, Char.le_def] using hc

theorem exists_toDigits (n : Nat) :
    ∃ c ds, Nat.toDigits 10 n = c :: ds ∧ ∀ x ∈ c :: ds, isDigit x = true := by
  obtain ⟨c, ds, hd⟩ := List.exists_cons_of_ne_nil (Nat.toDigits_ne_nil (n := n) (b := 10))
  refine ⟨c, ds, hd, fun x hx => ?_⟩
  rw [← hd] at hx
  exact isDigit_of_mem_toDigits hx

theorem digitValue_digitChar {d : Nat} (h : d < 10) : digitValue (Nat.digitChar d) = d := by
  have hc := Nat.toNat_digitChar_of_lt_ten h
  have hz : '0'.toNat = 48 := rfl
  unfold digitValue
  omega

/-- Zero has one digit, and no other number starts with it. -/
theorem eq_nil_of_toDigits {n : Nat} {ds : List Char} (h : Nat.toDigits 10 n = '0' :: ds) :
    ds = [] := by
  induction n using Nat.strongRecOn generalizing ds with
  | ind n ih =>
    by_cases hn : n < 10
    · rw [Nat.toDigits_of_lt_base hn] at h
      exact (List.cons.inj h).2.symm
    · rw [Nat.toDigits_of_base_le (by decide) (by omega)] at h
      obtain ⟨c, ds', hd, -⟩ := exists_toDigits (n / 10)
      rw [hd, List.cons_append] at h
      obtain rfl : c = '0' := (List.cons.inj h).1
      have hzero : Nat.toDigits 10 (n / 10) = ['0'] := by
        rw [hd, ih (n / 10) (by omega) hd]
      have hvalue : Nat.ofDigitChars 10 (Nat.toDigits 10 (n / 10)) 0 = n / 10 :=
        Nat.ofDigitChars_ten_toDigits
      rw [hzero] at hvalue
      have hz : Nat.ofDigitChars 10 ['0'] 0 = 0 := by decide
      omega

theorem addWhole_append (significand exponent : Nat) (xs ys : List Char) :
    addWhole significand exponent (xs ++ ys) =
      addWhole (addWhole significand exponent xs).1 (addWhole significand exponent xs).2 ys := by
  induction xs generalizing significand exponent with
  | nil => rfl
  | cons c rest ih =>
    rw [List.cons_append, addWhole, addWhole]
    split
    · exact ih ..
    · exact ih ..

theorem addWhole_toDigits {n : Nat} (h : n ≤ largestUnsigned) :
    addWhole 0 0 (Nat.toDigits 10 n) = (n, 0) := by
  induction n using Nat.strongRecOn with
  | ind n ih =>
    by_cases hn : n < 10
    · rw [Nat.toDigits_of_lt_base hn]
      simp [addWhole, digitValue_digitChar hn, h]
    · have hlast : n % 10 < 10 := Nat.mod_lt n (by decide)
      have hsum : 10 * (n / 10) + n % 10 = n := Nat.div_add_mod n 10
      rw [Nat.toDigits_of_base_le (by decide) (by omega), addWhole_append,
        ih (n / 10) (by omega) (by omega)]
      simp [addWhole, digitValue_digitChar hlast, hsum, h]

/-! ## Scanning -/

variable {rest : List Char}

theorem digitsOf_append {ds : List Char} (hd : ∀ c ∈ ds, isDigit c = true)
    (h : ∀ c ∈ rest.head?, isDigit c = false) :
    digitsOf (ds ++ rest) = ds ∧ afterDigits (ds ++ rest) = rest := by
  unfold digitsOf afterDigits
  rw [List.takeWhile_append_of_pos hd, List.dropWhile_append_of_pos hd]
  cases rest with
  | nil => simp
  | cons c rest => simp [h c rfl]

theorem reads_scanWhole (n : Nat) (h : Ends rest) :
    Reads scanWhole (Nat.toDigits 10 n ++ rest) (Nat.toDigits 10 n) rest := by
  obtain ⟨c, ds, hd, hdigits⟩ := exists_toDigits n
  rw [hd]
  by_cases hc : c = '0'
  · subst hc
    obtain rfl : ds = [] := eq_nil_of_toDigits hd
    have hstart : startsWithDigit rest = false := by
      cases rest with
      | nil => rfl
      | cons x rest => exact h.digit x rfl
    refine ⟨Nat.lt_succ_self _, ?_⟩
    simp [scanWhole, hstart, Taken.first]
  · obtain ⟨hfirst, hlater⟩ := List.forall_mem_cons.mp hdigits
    obtain ⟨htaken, hleft⟩ := digitsOf_append hlater h.digit
    refine ⟨by simp only [List.cons_append, List.length_cons, List.length_append]; omega, ?_⟩
    simp only [List.cons_append, scanWhole, if_neg hc, hfirst, htaken, hleft, ↓reduceIte]

theorem scanFraction_of_ends (h : Ends rest) :
    scanFraction rest = .ok ⟨(none, rest), Nat.le_refl _⟩ := by
  unfold scanFraction
  split
  · exact absurd rfl (h.point '.' rfl)
  · rfl

theorem scanExponent_of_ends (h : Ends rest) :
    scanExponent rest = .ok ⟨(none, rest), Nat.le_refl _⟩ := by
  cases rest with
  | nil => rfl
  | cons c rest =>
    obtain ⟨he, hE⟩ := h.mark c rfl
    simp [scanExponent, he, hE]

theorem reads_scanUnsigned (negative : Bool) (n : Nat) (h : Ends rest) :
    Reads (scanUnsigned negative) (Nat.toDigits 10 n ++ rest)
      ⟨negative, Nat.toDigits 10 n, none, none⟩ rest := by
  obtain ⟨hlt, hwhole⟩ := reads_scanWhole n h
  refine ⟨hlt, ?_⟩
  simp only [scanUnsigned, hwhole, bind, Except.bind, scanFraction_of_ends h,
    scanExponent_of_ends h]
  rfl

/-- An integer as a numeral. -/
def ofInt (n : Int) : Numeral := ⟨decide (n < 0), Nat.toDigits 10 n.natAbs, none, none⟩

/-- A digit is no sign. -/
theorem toDigits_append_ne (n : Nat) (r : List Char) :
    Nat.toDigits 10 n ++ rest ≠ '-' :: r := by
  obtain ⟨c, ds, hd, hdigits⟩ := exists_toDigits n
  have hdigit : isDigit c = true := hdigits c List.mem_cons_self
  rw [hd, List.cons_append]
  intro h
  rw [(List.cons.inj h).1] at hdigit
  cases hdigit

theorem reads_scan (n : Int) (h : Ends rest) :
    Reads scan (Number.integerChars n ++ rest) (ofInt n) rest := by
  unfold Number.integerChars ofInt
  by_cases hn : n < 0
  · obtain ⟨hlt, hscan⟩ := reads_scanUnsigned true n.natAbs h
    rw [if_pos hn, decide_eq_true hn]
    refine ⟨Nat.lt_succ_of_lt hlt, ?_⟩
    simp only [List.cons_append, scan, hscan]
    rfl
  · obtain ⟨hlt, hscan⟩ := reads_scanUnsigned false n.natAbs h
    rw [if_neg hn, decide_eq_false hn]
    refine ⟨hlt, ?_⟩
    rw [scan]
    · exact hscan
    · exact toDigits_append_ne n.natAbs

/-! ## Values -/

/-- With the sign there is room for half as many integers. -/
theorem value_ofInt {n : Int} (h : -2 ^ 63 ≤ n ∧ n < 2 ^ 64) (rest : List Char) :
    (ofInt n).value rest = .ok (.integer n) := by
  have hmax : n.natAbs ≤ largestUnsigned := by
    have hl : largestUnsigned = 2 ^ 64 - 1 := rfl
    omega
  have hwhole : addWhole 0 0 (ofInt n).whole = (n.natAbs, 0) := addWhole_toDigits hmax
  have hinteger : integer (decide (n < 0)) n.natAbs = .integer n := by
    unfold integer
    by_cases hn : n < 0
    · have hroom : ¬ (n.natAbs = 0 || Nat.pow 2 63 < n.natAbs) = true := by
        have hp : Nat.pow 2 63 = 2 ^ 63 := rfl
        rw [Bool.or_eq_true, decide_eq_true_iff, decide_eq_true_iff]
        omega
      have hback : -(n.natAbs : Int) = n := by omega
      rw [decide_eq_true hn, if_neg (by decide), if_neg hroom, hback]
    · have hback : (n.natAbs : Int) = n := by omega
      rw [decide_eq_false hn, if_pos (by decide), hback]
  simp only [value, hwhole]
  exact congrArg Except.ok hinteger

theorem reads_integerChars {n : Int} (h : -2 ^ 63 ≤ n ∧ n < 2 ^ 64) (he : Ends rest) :
    Reads read (Number.integerChars n ++ rest) (.integer n) rest := by
  obtain ⟨hlt, hscan⟩ := reads_scan n he
  refine ⟨hlt, ?_⟩
  simp only [read, hscan, bind, Except.bind, value_ofInt h]
  rfl

end Numeral

namespace Json

/-- An integer starts with a sign or a digit, and so with no blank and no other value. -/
theorem exists_integerChars (n : Int) :
    ∃ c cs, Number.integerChars n = c :: cs ∧ (c = '-' ∨ Numeral.isDigit c = true) := by
  unfold Number.integerChars
  split
  · exact ⟨'-', _, rfl, .inl rfl⟩
  · obtain ⟨c, ds, hd, hdigits⟩ := Numeral.exists_toDigits n.natAbs
    exact ⟨c, ds, hd, .inr (hdigits c List.mem_cons_self)⟩

theorem ne_of_starts {c x : Char} (h : c = '-' ∨ Numeral.isDigit c = true) (hm : x ≠ '-')
    (hd : Numeral.isDigit x = false) : c ≠ x := by
  rintro rfl
  rcases h with h | h
  · exact hm h
  · rw [hd] at h
    cases h

theorem isBlank_of_starts {c : Char} (h : c = '-' ∨ Numeral.isDigit c = true) :
    isBlank c = false := by
  simp [isBlank, ne_of_starts h (x := ' ') (by decide) rfl,
    ne_of_starts h (x := '\t') (by decide) rfl, ne_of_starts h (x := '\n') (by decide) rfl,
    ne_of_starts h (x := '\r') (by decide) rfl]

theorem scalar?_of_starts {c : Char} (h : c = '-' ∨ Numeral.isDigit c = true) (s : List Char) :
    scalar? (c :: s) = some ((Numeral.read (c :: s)).map fun t => t.map number) := by
  have hstart : (c = '-' || Numeral.isDigit c) = true := by simpa using h
  rw [scalar?, if_neg (ne_of_starts h (by decide) rfl), if_neg (ne_of_starts h (by decide) rfl),
    if_neg (ne_of_starts h (by decide) rfl), if_neg (ne_of_starts h (by decide) rfl),
    if_pos hstart]

theorem reads_unblanked {α : Type} {r : Reader α} {s rest : List Char} {a : α}
    (h : Reads r (skipBlank s) a rest) : Reads (unblanked r) s a rest := by
  obtain ⟨hlt, hr⟩ := h
  refine ⟨Nat.lt_of_lt_of_le hlt (length_skipBlank_le s), ?_⟩
  rw [unblanked, hr]
  rfl

theorem reads_integer {n : Int} (h : -2 ^ 63 ≤ n ∧ n < 2 ^ 64) {rest : List Char}
    (he : Numeral.Ends rest) (depth : Nat) :
    Reads (value depth) (Number.integerChars n ++ rest) (.number (.integer n)) rest := by
  obtain ⟨hlt, hread⟩ := Numeral.reads_integerChars h he
  obtain ⟨c, cs, hc, hstart⟩ := exists_integerChars n
  have hskip : skipBlank (Number.integerChars n ++ rest) = Number.integerChars n ++ rest := by
    rw [hc, List.cons_append, skipBlank, List.dropWhile_cons, isBlank_of_starts hstart]
    rfl
  have hscalar := scalar?_of_starts hstart (cs ++ rest)
  rw [← List.cons_append, ← hc, hread] at hscalar
  unfold value
  apply reads_unblanked
  rw [hskip]
  refine ⟨hlt, ?_⟩
  simp only [hscalar]
  rfl

/-- A text that holds an integer and nothing else. -/
theorem parse_integer {n : Int} (h : -2 ^ 63 ≤ n ∧ n < 2 ^ 64) :
    parse (Number.integer n).text = .ok (.number (.integer n)) := by
  obtain ⟨hlt, hread⟩ := reads_integer h Numeral.ends_nil nesting
  have htext : (Number.integer n).text.toList = Number.integerChars n ++ [] := by
    rw [Number.text, String.toList_ofList, List.append_nil]
    rfl
  unfold parse readText document
  rw [htext, hread]
  rfl

end Json

end PayloadCheck
