import PayloadCheck.Json.Skip

/-!
# Decoders

A decoder reads one kind of value straight from the text, so that it stops at the first thing that
does not fit, before later text is looked at. A value of another kind is read to its end before it
is refused; a bracket is not read at all.
-/

namespace PayloadCheck

namespace Decoder

/-- The fault for a value, at the front of `s`, of a kind that was not wanted. -/
def mismatch (wanted : String) (s : List Char) : Fault :=
  match Json.scalar? s with
  | some (.error fault) => fault
  | some (.ok ⟨.null, rest, _⟩) => .here (.unexpected .null wanted) rest
  | some (.ok ⟨.bool b, rest, _⟩) => .here (.unexpected (.bool b) wanted) rest
  | some (.ok ⟨.number n, rest, _⟩) => .here (.unexpected (.number n) wanted) rest
  | some (.ok ⟨.string t, rest, _⟩) => .here (.unexpected (.string t) wanted) rest
  | some (.ok ⟨_, rest, _⟩) => .here .noValue rest
  | none =>
    match s with
    | [] => .next .endInValue []
    | c :: _ =>
      if c = '[' then .here (.unexpected .array wanted) s
      else if c = '\x7b' then .here (.unexpected .object wanted) s
      else .next .noValue s

/-- Fixes the spot of a fault that concerns a whole object or array, past the closer if that comes
next, and past a comma where `comma` says so. -/
def settle (closer : Char) (comma : Bool) (fault : Fault) : Fault :=
  match fault.spot with
  | .fixed _ _ => fault
  | .pending unread =>
    match Json.skipBlank unread with
    | [] => .here fault.cause []
    | c :: rest =>
      if c = closer then .here fault.cause rest
      else if comma && c = ',' then .here fault.cause (Json.skipBlank rest)
      else .here fault.cause (c :: rest)

def settled (closer : Char) (comma : Bool) (result : Except Fault α) : Except Fault α :=
  result.mapError (settle closer comma)

/-! ## Scalars -/

def text (wanted : String) : Reader String := Json.unblanked fun s =>
  match s with
  | '"' :: rest => do
    let t ← Quoted.read rest
    return t.afterFirst '"'
  | s => .error (mismatch wanted s)

def unit : Reader Unit := Json.unblanked fun s =>
  match s with
  | 'n' :: rest => Json.wordFrom 'n' () ['u', 'l', 'l'] rest
  | s => .error (mismatch "unit" s)

def startsNumber (s : List Char) : Bool := s.head?.any fun c => c = '-' || Numeral.isDigit c

def natural (wanted : String) : Reader Nat := Json.unblanked fun s =>
  if startsNumber s then do
    let t ← Numeral.read s
    match t.value with
    | .integer n =>
      if 0 ≤ n then return t.map fun _ => n.toNat
      else .error (.here (.outOfRange n wanted) t.rest)
    | n => .error (.here (.unexpected (.number n) wanted) t.rest)
  else .error (mismatch wanted s)

/-- A number of any kind. Brackets are entered before they are refused. -/
def number (wanted : String) : Reader Number := Json.unblanked fun s =>
  if startsNumber s then Numeral.read s
  else
    match s with
    | '[' :: rest =>
      .error (settle ']' true ⟨.unexpected .array wanted, .pending rest⟩)
    | '\x7b' :: rest =>
      .error (settle '\x7d' false ⟨.unexpected .object wanted, .pending rest⟩)
    | s => .error (mismatch wanted s)

/-! ## Sequences -/

def list (wanted : String) (item : Reader α) : Reader (List α) := Json.unblanked fun s =>
  match s with
  | '[' :: rest => settled ']' true do
    let t ← Json.items item true rest
    return t.afterFirst '['
  | s => .error (mismatch wanted s)

/-! ## Alternatives -/

/-- What a name stands for: a value, or a value built from the one it is written with. -/
inductive Choice (α : Type) where
  | bare (a : α)
  | carrying (r : Reader α)

abbrev Choices (α : Type) := List (String × Choice α)

def choose (choices : Choices α) (name : String) (rest : List Char) :
    Except Fault (Choice α) :=
  match choices.lookup name with
  | some choice => .ok choice
  | none => .error (.here (.unknownName name (choices.map Prod.fst)) rest)

/-- One of several alternatives: its name, or an object with its name as the only key. -/
def choice (choices : Choices α) : Reader α := Json.unblanked fun s =>
  match s with
  | [] => .error (.next .endInValue [])
  | c :: rest =>
    if c = '"' then do
      let name ← Quoted.read rest
      match ← choose choices name.value name.rest with
      | .bare a => return (name.map fun _ => a).afterFirst c
      | .carrying _ => .error ⟨.unexpected .bareName "newtype variant", .pending name.rest⟩
    else if c = '\x7b' then do
      let name ← text "variant identifier" rest
      let chosen ← choose choices name.value name.rest
      let ⟨r, hr⟩ ← Json.colon name.rest
      let t ← match chosen with
        | .bare a => do
          let t ← unit r
          pure (t.map fun _ => a)
        | .carrying value => value r
      match h : Json.skipBlank t.rest with
      | [] => .error (.here .endInObject [])
      | d :: left =>
        if d = '\x7d' then
          return ⟨t.value, left, by
            have := Json.length_lt_of_skipBlank h
            have := t.shorter
            have := name.shorter
            simp only [List.length_cons] at *
            omega⟩
        else .error (.here .noValue (d :: left))
    else .error (.next .noValue (c :: rest))

/-! ## Records -/

structure Field (σ : Type) where
  name : String
  read : σ → Reader σ

/-- A record starts from a value, in which each field that is read is put in its place. -/
structure Record (σ : Type) where
  title : String
  fields : List (Field σ)
  start : σ
  /-- Whether fields may be missing; keys of other names are refused then, and else passed over. -/
  lenient : Bool

/-- A record of which some fields have been read. -/
structure Filling (σ : Type) where
  value : σ
  given : List String

namespace Record

def names (r : Record σ) : List String := r.fields.map Field.name

/-- How the member with a key is read. -/
def member (r : Record σ) : Json.Member (Filling σ) := fun filling key =>
  match r.fields.find? fun f => f.name = key with
  | some f =>
    if filling.given.contains key then .error (.repeatedField key)
    else .ok fun s => do
      let t ← f.read filling.value s
      return t.map fun value => ⟨value, key :: filling.given⟩
  | none =>
    if r.lenient then .error (.unknownField key r.names)
    else .ok fun s => do
      let t ← Json.skip s
      return t.map fun _ => filling

def missing? (r : Record σ) (filling : Filling σ) : Option String :=
  if r.lenient then none else r.names.find? fun name => !filling.given.contains name

def ofObject (r : Record σ) : Reader σ := fun s => settled '\x7d' false do
  let t ← Json.members r.member true ⟨r.start, []⟩ s
  match r.missing? t.value with
  | none => return t.map Filling.value
  | some name => .error (.here (.missingField name) t.rest)

def tooShort (r : Record σ) (length : Nat) : Cause :=
  .tooShort length (r.title ++ " with " ++ toString r.fields.length ++ " elements")

/-- The items of an array for the fields in order, up to the bracket or to the last field. -/
def items (r : Record σ) (state : σ) (index : Nat) (s : List Char) :
    List (Field σ) → Except Fault { t : σ × List Char // t.2.length ≤ s.length }
  | [] => .ok ⟨(state, s), Nat.le_refl _⟩
  | f :: fields =>
    match h : Json.skipBlank s with
    | [] => .error (.next .endInArray [])
    | c :: rest =>
      have le : rest.length < s.length := Json.length_lt_of_skipBlank h
      if c = ']' then
        if r.lenient then .ok ⟨(state, c :: rest), Nat.succ_le_of_lt le⟩
        else .error ⟨r.tooShort index, .pending (c :: rest)⟩
      else if index = 0 then do
        let t ← f.read state (c :: rest)
        let ⟨u, hu⟩ ← r.items t.value 1 t.rest fields
        return ⟨u, Nat.le_trans hu (Nat.le_trans (Nat.le_of_lt t.shorter) (Nat.succ_le_of_lt le))⟩
      else if c = ',' then
        match Json.skipBlank rest, Json.length_skipBlank_le rest with
        | ']' :: left, _ => .error (.next .trailingComma (']' :: left))
        | next, hn => do
          let t ← f.read state next
          let ⟨u, hu⟩ ← r.items t.value (index + 1) t.rest fields
          return ⟨u, Nat.le_trans hu (Nat.le_trans (Nat.le_of_lt t.shorter)
            (Nat.le_trans hn (Nat.le_of_lt le)))⟩
      else .error (.next .noArraySeparator (c :: rest))

/-- The closing bracket, with no item before it. -/
def endOfArray (s : List Char) : Except Fault { t : List Char // t.length < s.length } :=
  match h : Json.skipBlank s with
  | [] => .error (.next .endInArray [])
  | c :: rest =>
    if c = ']' then
      .ok ⟨rest, Json.length_lt_of_skipBlank h⟩
    else if c = ',' then
      match Json.skipBlank rest with
      | ']' :: left => .error (.next .trailingComma (']' :: left))
      | left => .error (.next .trailingText left)
    else .error (.next .trailingText (c :: rest))

def ofArray (r : Record σ) : Reader σ := fun s => settled ']' true do
  let ⟨(state, left), h⟩ ← r.items r.start 0 s r.fields
  let ⟨rest, hr⟩ ← endOfArray left
  return ⟨state, rest, Nat.lt_of_lt_of_le hr h⟩

/-- A record as an object, or as an array of its fields in order. -/
def read (r : Record σ) : Reader σ := Json.unblanked fun s =>
  match s with
  | '\x7b' :: rest => do
    let t ← r.ofObject rest
    return t.afterFirst '\x7b'
  | '[' :: rest => do
    let t ← r.ofArray rest
    return t.afterFirst '['
  | s => .error (mismatch r.title s)

end Record

end Decoder

def Number.ofText (text : String) : Except String Number :=
  Json.readText (Decoder.number "a JSON number") text

end PayloadCheck
