import PayloadCheck.Regex.Term

/-!
# Reading patterns

What the readers of a pattern share: the flags in force, blanks and comments in verbose mode, and
a loop over what is still unread (`Scan.run`). A reader gives `none` for what is not a pattern.
-/

namespace PayloadCheck

namespace Regex

structure Flags where
  caseless : Bool := false
  multiLine : Bool := false
  dotAll : Bool := false
  verbose : Bool := false
  unicode : Bool := true
  crlf : Bool := false
  deriving DecidableEq, Repr

namespace Scan

def isBlank (c : Char) : Bool := CodeSet.space.contains c.toNat

/-- Skips blanks and comments; the flag tells whether a comment is open. -/
def skipComments (comment : Bool) : List Char → List Char
  | [] => []
  | c :: rest =>
    if comment then skipComments (c ≠ '\n') rest
    else if c = '#' then skipComments true rest
    else if isBlank c then skipComments false rest
    else c :: rest

/-- Skips what has no meaning in verbose mode. -/
def skip (flags : Flags) (cs : List Char) : List Char :=
  if flags.verbose then skipComments false cs else cs

theorem length_skipComments_le (comment : Bool) (cs : List Char) :
    (skipComments comment cs).length ≤ cs.length := by
  induction cs generalizing comment with
  | nil => simp [skipComments]
  | cons c rest ih =>
    rw [skipComments]
    split
    · exact Nat.le_succ_of_le (ih _)
    · split
      · exact Nat.le_succ_of_le (ih _)
      · split
        · exact Nat.le_succ_of_le (ih _)
        · exact Nat.le_refl _

theorem length_skip_le (flags : Flags) (cs : List Char) : (skip flags cs).length ≤ cs.length := by
  rw [skip]
  split
  · exact length_skipComments_le _ _
  · exact Nat.le_refl _

/-- The text up to a closing brace and what follows the brace. -/
def untilBrace (flags : Flags) (comment : Bool) : List Char → Option (List Char × List Char)
  | [] => none
  | c :: rest =>
    if comment then untilBrace flags (c ≠ '\n') rest
    else if flags.verbose && c = '#' then untilBrace flags true rest
    else if flags.verbose && isBlank c then untilBrace flags false rest
    else if c = '\x7d' then some ([], rest)
    else (untilBrace flags false rest).map fun (name, left) => (c :: name, left)

/-- The decimal digits that come next and what follows them. -/
def digits (flags : Flags) (comment : Bool) : List Char → List Char × List Char
  | [] => ([], [])
  | c :: rest =>
    if comment then digits flags (c ≠ '\n') rest
    else if c.isDigit then
      let (ds, left) := digits flags false rest
      (c :: ds, left)
    else if flags.verbose && c = '#' then digits flags true rest
    else if flags.verbose && isBlank c then digits flags false rest
    else ([], c :: rest)

def hexDigit? (c : Char) : Option Nat :=
  if '0' ≤ c && c ≤ '9' then some (c.toNat - 48)
  else if 'a' ≤ c && c ≤ 'f' then some (c.toNat - 87)
  else if 'A' ≤ c && c ≤ 'F' then some (c.toNat - 55)
  else none

/-- The character with a code point; there is none for surrogates and past the last one. -/
def charOf? (code : Nat) : Option Char :=
  if h : code.isValidChar then some (Char.ofNatAux code h) else none

/-- Runs a step until it stops or nothing is left. A step has to read something. -/
def run {σ ρ : Type} (step : σ → Char → List Char → Option ((σ ⊕ ρ) × List Char)) (state : σ)
    (cs : List Char) : Option ((σ ⊕ ρ) × List Char) :=
  match cs with
  | [] => some (.inl state, [])
  | c :: rest =>
    match step state c rest with
    | none => none
    | some (.inr result, left) => some (.inr result, left)
    | some (.inl state, left) =>
      if left.length ≤ rest.length then run step state left else none
termination_by cs.length

end Scan

end Regex

end PayloadCheck
