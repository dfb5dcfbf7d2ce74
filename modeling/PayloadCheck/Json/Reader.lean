import PayloadCheck.Json.Numeral
import PayloadCheck.Json.Quoted

/-!
# Reading JSON

`Json.parse` reads a document: one value, with nothing but blanks around it. Arrays and objects
are read by `Json.items` and `Json.members`, which take a reader for what stands in them and serve
decoders as well. Brackets nest at most `Json.nesting` deep, and the reader of values recurses on
the depth that is left.
-/

namespace PayloadCheck

namespace Json

/-! ## Containers -/

/-- The items of an array, after its bracket or after an item. -/
def items (item : Reader α) (first : Bool) : Reader (List α) := fun s =>
  match h : skipBlank s with
  | [] => .error (.next .endInArray [])
  | c :: rest =>
    have shorter : rest.length < s.length := length_lt_of_skipBlank h
    if c = ']' then .ok ⟨[], rest, shorter⟩
    else if first then do
      let t ← item (c :: rest)
      have := t.shorter
      have := Nat.lt_of_lt_of_le t.shorter shorter
      let ts ← items item false t.rest
      return ⟨t.value :: ts.value, ts.rest, Nat.lt_trans ts.shorter this⟩
    else if c = ',' then
      match h' : skipBlank rest with
      | ']' :: r => .error (.next .trailingComma (']' :: r))
      | next => do
        have le : next.length ≤ rest.length := length_le_of_skipBlank h'
        let t ← item next
        have := Nat.lt_trans (Nat.lt_of_lt_of_le t.shorter le) shorter
        let ts ← items item false t.rest
        return ⟨t.value :: ts.value, ts.rest, Nat.lt_trans ts.shorter this⟩
    else .error (.next .noArraySeparator (c :: rest))
termination_by s => s.length

/-- The colon after a key. -/
def colon (s : List Char) : Except Fault { r : List Char // r.length < s.length } :=
  match h : skipBlank s with
  | [] => .error (.next .endInObject [])
  | c :: rest =>
    if c = ':' then
      .ok ⟨rest, length_lt_of_skipBlank h⟩
    else .error (.next .noColon (c :: rest))

/-- How a member is read into a state, by its key. A key can be refused. -/
abbrev Member (σ : Type) := σ → String → Except Cause (Reader σ)

/-- One member, after the opening quote of its key. -/
def member (field : Member σ) (state : σ) : Reader σ := fun s => do
  let key ← Quoted.read s
  match field state key.value with
  | .error cause => .error ⟨cause, .pending key.rest⟩
  | .ok value => do
    let ⟨rest, h⟩ ← colon key.rest
    let t ← value rest
    return t.within (Nat.le_of_lt (Nat.lt_trans h key.shorter))

/-- The members of an object, after its brace or after a member. -/
def members (field : Member σ) (first : Bool) (state : σ) : Reader σ := fun s =>
  match h : skipBlank s with
  | [] => .error (.next .endInObject [])
  | c :: rest =>
    have shorter : rest.length < s.length := length_lt_of_skipBlank h
    if c = '\x7d' then .ok ⟨state, rest, shorter⟩
    else if first then
      if c = '"' then do
        let t ← member field state rest
        have := Nat.lt_trans t.shorter shorter
        let u ← members field false t.value t.rest
        return ⟨u.value, u.rest, Nat.lt_trans u.shorter this⟩
      else .error (.next .keyNotString (c :: rest))
    else if c = ',' then
      match h' : skipBlank rest with
      | [] => .error (.next .endInValue [])
      | '"' :: key => do
        have le : key.length < rest.length := length_lt_of_skipBlank h'
        let t ← member field state key
        have := Nat.lt_trans (Nat.lt_trans t.shorter le) shorter
        let u ← members field false t.value t.rest
        return ⟨u.value, u.rest, Nat.lt_trans u.shorter this⟩
      | '\x7d' :: r => .error (.next .trailingComma ('\x7d' :: r))
      | r => .error (.next .keyNotString r)
    else .error (.next .noObjectSeparator (c :: rest))
termination_by s => s.length

/-! ## Values -/

/-- How deep brackets may nest. -/
def nesting : Nat := 127

/-- The rest of a word, after its first letter. -/
def wordFrom (c : Char) (value : α) (letters rest : List Char) :
    Except Fault (Taken α (c :: rest)) := do
  let ⟨(value, left), h⟩ ← word value letters rest
  return ⟨value, left, Nat.lt_succ_of_le h⟩

/-- The values that have no parts. -/
def scalar? : (s : List Char) → Option (Except Fault (Taken Json s))
  | [] => none
  | c :: rest =>
    if c = 'n' then some (wordFrom c null ['u', 'l', 'l'] rest)
    else if c = 't' then some (wordFrom c (bool true) ['r', 'u', 'e'] rest)
    else if c = 'f' then some (wordFrom c (bool false) ['a', 'l', 's', 'e'] rest)
    else if c = '"' then some ((Quoted.read rest).map fun t => (t.map string).afterFirst c)
    else if c = '-' || Numeral.isDigit c then
      some ((Numeral.read (c :: rest)).map fun t => t.map number)
    else none

/-- Members are put one after the other, so that a key written again keeps its place. -/
def gather (value : Reader Json) : Member (List (String × Json)) := fun gathered key =>
  .ok fun s => do
    let t ← value s
    return t.map fun v => put key v gathered

/-- A value, where brackets may still nest `depth` deep. -/
def value (depth : Nat) : Reader Json := unblanked fun s =>
  match scalar? s with
  | some taken => taken
  | none =>
    match s with
    | [] => .error (.next .endInValue [])
    | c :: rest =>
      if c = '[' then
        match depth with
        | 0 => .error (.next .nestedTooDeep (c :: rest))
        | depth + 1 => do
          let t ← items (value depth) true rest
          return (t.map array).afterFirst c
      else if c = '\x7b' then
        match depth with
        | 0 => .error (.next .nestedTooDeep (c :: rest))
        | depth + 1 => do
          let t ← members (gather (value depth)) true [] rest
          return (t.map object).afterFirst c
      else .error (.next .noValue (c :: rest))

/-! ## Documents -/

/-- Reads a whole document, to its last blank. -/
def document (r : Reader α) (s : List Char) : Except Fault α := do
  let t ← r s
  match skipBlank t.rest with
  | [] => return t.value
  | rest => .error (.next .trailingText rest)

/-- Reads a whole text, or says what is wrong with it. -/
def readText (r : Reader α) (text : String) : Except String α :=
  match document r text.toList with
  | .ok a => .ok a
  | .error fault => .error (fault.message text.toList)

def parse (text : String) : Except String Json := readText (value nesting) text

end Json

end PayloadCheck
