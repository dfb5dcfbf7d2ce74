import PayloadCheck.Json.Reader

/-!
# Passing over a value

`Json.skip` finds the end of a value whose content does not matter. It keeps a list of the open
brackets, so nesting has no limit, and it asks less of strings and numbers than `Json.value`.
-/

namespace PayloadCheck

namespace Json

inductive Bracket where
  | array
  | object
  deriving DecidableEq

namespace Bracket

def closer : Bracket → Char
  | array => ']'
  | object => '\x7d'

def endInside : Bracket → Cause
  | array => .endInArray
  | object => .endInObject

def noSeparator : Bracket → Cause
  | array => .noArraySeparator
  | object => .noObjectSeparator

end Bracket

/-- What is left of `s`, which may be all of it. -/
abbrev Left (s : List Char) := { r : List Char // r.length ≤ s.length }

/-- A numeral that ends too early is a bad one, also at the end of the text. -/
def skipNumeral : Reader Unit := fun s =>
  match Numeral.scan s with
  | .ok t => .ok (t.map fun _ => ())
  | .error ⟨.endInValue, spot⟩ => .error ⟨.badNumber, spot⟩
  | .error fault => .error fault

def skipScalar? : (s : List Char) → Option (Except Fault (Taken Unit s))
  | [] => none
  | c :: rest =>
    if c = 'n' then some (wordFrom c () ['u', 'l', 'l'] rest)
    else if c = 't' then some (wordFrom c () ['r', 'u', 'e'] rest)
    else if c = 'f' then some (wordFrom c () ['a', 'l', 's', 'e'] rest)
    else if c = '"' then some ((Quoted.skip rest).map fun t => t.afterFirst c)
    else if c = '-' || Numeral.isDigit c then some (skipNumeral (c :: rest))
    else none

mutual

/-- Passes over a value and then over what closes the brackets around it. -/
def skipValue (brackets : List Bracket) (s : List Char) : Except Fault (Taken Unit s) :=
  match h : skipBlank s with
  | [] => .error (.next .endInValue [])
  | c :: rest =>
    have le : rest.length < s.length := length_lt_of_skipBlank h
    match skipScalar? (c :: rest) with
    | some (.error fault) => .error fault
    | some (.ok t) => do
      have shorter : t.rest.length < s.length :=
        Nat.lt_of_lt_of_le t.shorter (Nat.succ_le_of_lt le)
      let ⟨r, hr⟩ ← skipEnd brackets t.rest
      return ⟨(), r, Nat.lt_of_le_of_lt hr shorter⟩
    | none =>
      if c = '[' then do
        let ⟨r, hr⟩ ← skipFirst .array brackets rest
        return ⟨(), r, Nat.lt_of_le_of_lt hr le⟩
      else if c = '\x7b' then do
        let ⟨r, hr⟩ ← skipFirst .object brackets rest
        return ⟨(), r, Nat.lt_of_le_of_lt hr le⟩
      else .error (.next .noValue (c :: rest))
termination_by (s.length, 0)

/-- After an opening bracket. -/
def skipFirst (b : Bracket) (brackets : List Bracket) (s : List Char) : Except Fault (Left s) :=
  match h : skipBlank s with
  | [] => .error (.next b.endInside [])
  | c :: rest =>
    have le : rest.length < s.length := length_lt_of_skipBlank h
    if c = b.closer then do
      let ⟨r, hr⟩ ← skipEnd brackets rest
      return ⟨r, Nat.le_trans hr (Nat.le_of_lt le)⟩
    else skipItem b brackets s
termination_by (s.length, 2)

/-- Before an item or a member. -/
def skipItem (b : Bracket) (brackets : List Bracket) (s : List Char) : Except Fault (Left s) :=
  match b with
  | .array => do
    let t ← skipValue (.array :: brackets) s
    return ⟨t.rest, Nat.le_of_lt t.shorter⟩
  | .object =>
    match h : skipBlank s with
    | [] => .error (.next .endInObject [])
    | c :: rest =>
      have le : rest.length < s.length := length_lt_of_skipBlank h
      if c = '"' then do
        let key ← Quoted.skip rest
        let ⟨r, hr⟩ ← colon key.rest
        have : r.length < s.length := Nat.lt_trans (Nat.lt_trans hr key.shorter) le
        let t ← skipValue (.object :: brackets) r
        return ⟨t.rest, Nat.le_of_lt (Nat.lt_trans t.shorter this)⟩
      else .error (.next .keyNotString (c :: rest))
termination_by (s.length, 1)

/-- After a value. -/
def skipEnd (brackets : List Bracket) (s : List Char) : Except Fault (Left s) :=
  match brackets with
  | [] => .ok ⟨s, Nat.le_refl _⟩
  | b :: outer =>
    match h : skipBlank s with
    | [] => .error (.next b.endInside [])
    | c :: rest =>
      have le : rest.length < s.length := length_lt_of_skipBlank h
      if c = ',' then do
        let ⟨r, hr⟩ ← skipItem b outer rest
        return ⟨r, Nat.le_trans hr (Nat.le_of_lt le)⟩
      else if c = b.closer then do
        let ⟨r, hr⟩ ← skipEnd outer rest
        return ⟨r, Nat.le_trans hr (Nat.le_of_lt le)⟩
      else .error (.next b.noSeparator (c :: rest))
termination_by (s.length, 0)

end

def skip : Reader Unit := skipValue []

end Json

end PayloadCheck
