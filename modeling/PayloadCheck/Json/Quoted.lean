import PayloadCheck.Json.Taken

/-!
# Strings between quotes

`Quoted.read` takes the characters of a string, `Quoted.skip` only finds its end: it does not
care whether the halves of surrogate pairs come together.
-/

namespace PayloadCheck

namespace Quoted

def hexValue? (c : Char) : Option Nat :=
  if '0' ≤ c && c ≤ '9' then some (c.toNat - 48)
  else if 'a' ≤ c && c ≤ 'f' then some (c.toNat - 87)
  else if 'A' ≤ c && c ≤ 'F' then some (c.toNat - 55)
  else none

/-- Four hexadecimal digits; of other text, four bytes are read before it is refused. -/
def unit : Reader Nat := fun s =>
  if byteCount (s.take 4) < 4 then .error (.here .endInString [])
  else
    match s with
    | a :: b :: c :: d :: rest =>
      match hexValue? a, hexValue? b, hexValue? c, hexValue? d with
      | some a, some b, some c, some d =>
        .ok ⟨4096 * a + 256 * b + 16 * c + d, rest, by simp only [List.length_cons]; omega⟩
      | _, _, _, _ => .error ⟨.badEscape, .fixed s 4⟩
    | _ => .error ⟨.badEscape, .fixed s 4⟩

def isHigh (u : Nat) : Bool := 0xD800 ≤ u && u < 0xDC00

def isLow (u : Nat) : Bool := 0xDC00 ≤ u && u < 0xE000

/-- The second half of a surrogate pair, which has to be an escape like the first. -/
def low : Reader Nat
  | [] => .error (.here .endInString [])
  | '\\' :: [] => .error (.here .endInString [])
  | '\\' :: 'u' :: rest => do
    let t ← unit rest
    if isLow t.value then return (t.afterFirst 'u').afterFirst '\\'
    else .error (.here .loneSurrogate t.rest)
  | '\\' :: rest => .error ⟨.missingSurrogate, .fixed rest 1⟩
  | s => .error ⟨.missingSurrogate, .fixed s 1⟩

/-- The character of four hexadecimal digits, or of two such groups. -/
def unicode : Reader Char := fun s => do
  let t ← unit s
  if isLow t.value then .error (.here .loneSurrogate t.rest)
  else if isHigh t.value then
    let u ← low t.rest
    return t.followedBy (u.map fun l =>
      Char.ofNat (0x10000 + 0x400 * (t.value - 0xD800) + (l - 0xDC00)))
  else return t.map Char.ofNat

/-- The characters that have an escape of one letter. -/
def letterEscape? : Char → Option Char
  | '"' => some '"'
  | '\\' => some '\\'
  | '/' => some '/'
  | 'b' => some '\x08'
  | 'f' => some '\x0c'
  | 'n' => some '\n'
  | 'r' => some '\r'
  | 't' => some '\t'
  | _ => none

/-- What follows a backslash. -/
def escape : Reader Char
  | [] => .error (.here .endInString [])
  | c :: rest =>
    if c = 'u' then do
      let t ← unicode rest
      return t.afterFirst c
    else
      match letterEscape? c with
      | some e => .ok (.first e c rest)
      | none => .error ⟨.badEscape, .fixed (c :: rest) 1⟩

/-- The characters up to the closing quote. -/
def body : Reader (List Char)
  | [] => .error (.here .endInString [])
  | c :: rest =>
    if c = '"' then .ok (.first [] c rest)
    else if c = '\\' then do
      let t ← escape rest
      have := t.shorter
      let u ← body t.rest
      return (t.followedBy (u.map (t.value :: ·))).afterFirst c
    else if c.toNat < 32 then .error ⟨.controlCharacter, .fixed (c :: rest) 1⟩
    else do
      let u ← body rest
      return (u.map (c :: ·)).afterFirst c
termination_by s => s.length

/-- A string, after its opening quote. -/
def read : Reader String := fun s => do
  let t ← body s
  return t.map String.ofList

/-- What follows a backslash, without its meaning. -/
def skipEscape : Reader Unit
  | [] => .error (.here .endInString [])
  | c :: rest =>
    if c = 'u' then do
      let t ← unit rest
      return (t.map fun _ => ()).afterFirst c
    else if (letterEscape? c).isSome then .ok (.first () c rest)
    else .error ⟨.badEscape, .fixed (c :: rest) 1⟩

/-- Reads up to the closing quote. -/
def skip : Reader Unit
  | [] => .error (.here .endInString [])
  | c :: rest =>
    if c = '"' then .ok (.first () c rest)
    else if c = '\\' then do
      let t ← skipEscape rest
      have := t.shorter
      let u ← skip t.rest
      return (t.followedBy u).afterFirst c
    else if c.toNat < 32 then .error ⟨.controlCharacter, .fixed (c :: rest) 1⟩
    else do
      let u ← skip rest
      return u.afterFirst c
termination_by s => s.length

end Quoted

end PayloadCheck
