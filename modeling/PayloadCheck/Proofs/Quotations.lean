import PayloadCheck.Proofs.Numerals

/-!
# Reading strings back

Between quotes a character is written by `Json.quotedChar`, as it is or as an escape, and read by
`Quoted.body`. Each character is read back before the text behind it is looked at, so a string is
read back by induction on its characters.

* `Quoted.reads_quotedChar`: one character, in front of what is read already;
* `Quoted.reads_quoted`: a string, up to its closing quote.
-/

namespace PayloadCheck

namespace Quoted

open Json (quotedChar hexDigit)

theorem hexValue?_hexDigit : ∀ d < 16, hexValue? (hexDigit d) = some d := by decide

variable {c : Char} {s rest : List Char}

/-! ## Escapes -/

/-- The four digits of a small number, of which the first two are zeros. -/
theorem reads_unit {n : Nat} (hn : n < 256) :
    Reads unit ('0' :: '0' :: hexDigit (n / 16) :: hexDigit (n % 16) :: rest) n rest := by
  have hhigh : hexValue? (hexDigit (n / 16)) = some (n / 16) :=
    hexValue?_hexDigit (n / 16) (by omega)
  have hlow : hexValue? (hexDigit (n % 16)) = some (n % 16) :=
    hexValue?_hexDigit (n % 16) (by omega)
  have hzero : hexValue? '0' = some 0 := by decide
  -- No character takes less than a byte.
  have hbytes : ¬ byteCount ['0', '0', hexDigit (n / 16), hexDigit (n % 16)] < 4 := by
    have h₁ := (hexDigit (n / 16)).utf8Size_pos
    have h₂ := (hexDigit (n % 16)).utf8Size_pos
    have h₀ : Char.utf8Size '0' = 1 := by decide
    simp only [byteCount, List.foldr_cons, List.foldr_nil]
    omega
  have hsum : 4096 * 0 + 256 * 0 + 16 * (n / 16) + n % 16 = n := by omega
  refine ⟨by simp only [List.length_cons]; omega, ?_⟩
  simp only [unit, List.take_succ_cons, List.take_zero, if_neg hbytes, hzero, hhigh, hlow, hsum]

theorem reads_unicode {n : Nat} (hn : n < 0xD800) (h : Reads unit s n rest) :
    Reads unicode s (Char.ofNat n) rest := by
  obtain ⟨hlt, hunit⟩ := h
  have hlow : isLow n = false := by
    simp only [isLow, Bool.and_eq_false_iff, decide_eq_false_iff_not]
    omega
  have hhigh : isHigh n = false := by
    simp only [isHigh, Bool.and_eq_false_iff, decide_eq_false_iff_not]
    omega
  refine ⟨hlt, ?_⟩
  simp only [unicode, hunit, bind, Except.bind, hlow, hhigh]
  rfl

theorem reads_escape_letter {e : Char} (hc : c ≠ 'u') (h : letterEscape? c = some e) :
    Reads escape (c :: rest) e rest := by
  refine ⟨Nat.lt_succ_self _, ?_⟩
  simp only [escape, if_neg hc, h]
  rfl

theorem reads_escape_unicode (h : Reads unicode s c rest) : Reads escape ('u' :: s) c rest := by
  obtain ⟨hlt, hunicode⟩ := h
  refine ⟨Nat.lt_succ_of_lt hlt, ?_⟩
  simp only [escape, hunicode, bind, Except.bind, ↓reduceIte]
  rfl

/-! ## Characters -/

variable {cs s' : List Char}

theorem reads_body_escape (he : Reads escape s c s') (h : Reads body s' cs rest) :
    Reads body ('\\' :: s) (c :: cs) rest := by
  obtain ⟨hlt, hescape⟩ := he
  obtain ⟨hlt', hbody⟩ := h
  refine ⟨Nat.lt_succ_of_lt (Nat.lt_trans hlt' hlt), ?_⟩
  rw [body]
  simp only [hescape, hbody, bind, Except.bind, ↓reduceIte]
  rfl

theorem reads_body_plain (hquote : c ≠ '"') (hslash : c ≠ '\\') (hc : ¬ c.toNat < 32)
    (h : Reads body s cs rest) : Reads body (c :: s) (c :: cs) rest := by
  obtain ⟨hlt, hbody⟩ := h
  refine ⟨Nat.lt_succ_of_lt hlt, ?_⟩
  rw [body]
  simp only [hquote, hslash, hc, hbody, bind, Except.bind, ↓reduceIte]
  rfl

/-- However a character is written, it is read back in front of the others. -/
theorem reads_quotedChar (c : Char) (h : Reads body s cs rest) :
    Reads body (quotedChar c ++ s) (c :: cs) rest := by
  have hletter {e d : Char} (hd : d ≠ 'u') (hde : letterEscape? d = some e) :
      Reads body (['\\', d] ++ s) (e :: cs) rest :=
    reads_body_escape (reads_escape_letter hd hde) h
  unfold quotedChar
  split
  · next hc =>
    subst hc
    exact hletter (by decide) rfl
  split
  · next hc =>
    subst hc
    exact hletter (by decide) rfl
  split
  · next hc =>
    subst hc
    exact hletter (by decide) rfl
  split
  · next hc =>
    subst hc
    exact hletter (by decide) rfl
  split
  · next hc =>
    subst hc
    exact hletter (by decide) rfl
  split
  · next hc =>
    obtain rfl : c = '\x08' := Char.toNat_inj.mp hc
    exact hletter (by decide) rfl
  split
  · next hc =>
    obtain rfl : c = '\x0c' := Char.toNat_inj.mp hc
    exact hletter (by decide) rfl
  split
  · next hc =>
    have hunit : Reads unit ('0' :: '0' :: hexDigit (c.toNat / 16) :: hexDigit (c.toNat % 16) :: s)
        c.toNat s := reads_unit (by omega)
    have hunicode := reads_unicode (by omega) hunit
    rw [Char.ofNat_toNat] at hunicode
    exact reads_body_escape (reads_escape_unicode hunicode) h
  · next hquote hslash _ _ _ _ _ hc => exact reads_body_plain hquote hslash hc h

/-! ## Strings -/

theorem reads_body (cs rest : List Char) :
    Reads body (cs.flatMap quotedChar ++ '"' :: rest) cs rest := by
  induction cs with
  | nil =>
    refine ⟨Nat.lt_succ_self _, ?_⟩
    show body ('"' :: rest) = _
    rw [body, if_pos rfl]
    rfl
  | cons c cs ih =>
    rw [List.flatMap_cons, List.append_assoc]
    exact reads_quotedChar c ih

theorem reads_quoted (t : String) (rest : List Char) :
    Reads read (t.toList.flatMap quotedChar ++ '"' :: rest) t rest := by
  obtain ⟨hlt, hbody⟩ := reads_body t.toList rest
  refine ⟨hlt, ?_⟩
  simp only [read, hbody, bind, Except.bind, Taken.map, String.ofList_toList]
  rfl

end Quoted

end PayloadCheck
