import PayloadCheck.Json.Fault

/-!
# Readers

A reader takes something from the front of a text and says what is left. What is left is shorter,
which is why loops over readers end.
-/

namespace PayloadCheck

/-- Something read from the front of `s`. -/
structure Taken (α : Type) (s : List Char) where
  value : α
  rest : List Char
  shorter : rest.length < s.length

abbrev Reader (α : Type) := (s : List Char) → Except Fault (Taken α s)

namespace Taken

def map (f : α → β) (t : Taken α s) : Taken β s := ⟨f t.value, t.rest, t.shorter⟩

/-- The same, seen from a longer text. -/
def within (t : Taken α s) {u : List Char} (h : s.length ≤ u.length) : Taken α u :=
  ⟨t.value, t.rest, Nat.lt_of_lt_of_le t.shorter h⟩

/-- Replaces the value by one that took more of the text. -/
def followedBy (t : Taken α s) (u : Taken β t.rest) : Taken β s :=
  u.within (Nat.le_of_lt t.shorter)

/-- What the first character alone stands for. -/
def first (value : α) (c : Char) (rest : List Char) : Taken α (c :: rest) :=
  ⟨value, rest, Nat.lt_succ_self _⟩

/-- Reading on after the first character. -/
def afterFirst (t : Taken α s) (c : Char) : Taken α (c :: s) := t.within (Nat.le_succ _)

end Taken

namespace Json

def isBlank (c : Char) : Bool := c = ' ' || c = '\t' || c = '\n' || c = '\r'

def skipBlank (s : List Char) : List Char := s.dropWhile isBlank

theorem length_skipBlank_le (s : List Char) : (skipBlank s).length ≤ s.length := by
  induction s with
  | nil => simp [skipBlank]
  | cons c rest ih =>
    rw [skipBlank, List.dropWhile_cons]
    split
    · exact Nat.le_succ_of_le ih
    · exact Nat.le_refl _

theorem length_le_of_skipBlank {s rest : List Char} (h : skipBlank s = rest) :
    rest.length ≤ s.length := h ▸ length_skipBlank_le s

theorem length_lt_of_skipBlank {s rest : List Char} {c : Char} (h : skipBlank s = c :: rest) :
    rest.length < s.length := length_le_of_skipBlank h

/-- Reads after the blanks. -/
def unblanked (r : Reader α) : Reader α := fun s => do
  let t ← r (skipBlank s)
  return t.within (length_skipBlank_le s)

/-- Reads the letters of a word. -/
def word (value : α) :
    List Char → (s : List Char) → Except Fault { r : α × List Char // r.2.length ≤ s.length }
  | [], s => .ok ⟨(value, s), Nat.le_refl _⟩
  | _ :: _, [] => .error (.here .endInValue [])
  | w :: letters, c :: rest =>
    if c = w then do
      let ⟨t, h⟩ ← word value letters rest
      return ⟨t, Nat.le_succ_of_le h⟩
    else .error ⟨.misspeltWord, .fixed (c :: rest) 1⟩

end Json

end PayloadCheck
