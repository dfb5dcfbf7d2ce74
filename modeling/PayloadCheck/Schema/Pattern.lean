import PayloadCheck.Regex.Reader

/-!
# Patterns

A pattern is written bare, or between slashes with flags behind the second. It counts as delimited
only if nothing but flags follows its last slash, so a path such as `/api/users` is bare. The
letter `u` is a flag without effect: matching always goes by characters.
-/

namespace PayloadCheck

structure Pattern where
  source : String
  program : Regex.Program Regex.Leaf

namespace Pattern

def isFlag (c : Char) : Bool := ['i', 'm', 's', 'x', 'u'].contains c

/-- Cuts a text at its last slash. -/
def cutAtLastSlash : List Char → Option (List Char × List Char)
  | [] => none
  | c :: rest =>
    match cutAtLastSlash rest with
    | some (body, after) => some (c :: body, after)
    | none => if c = '/' then some ([], rest) else none

/-- The body and the flags of a delimited source. -/
def delimited? : List Char → Option (List Char × List Char)
  | '/' :: rest =>
    match cutAtLastSlash rest with
    | some (body, flags) => if flags.all isFlag then some (body, flags) else none
    | none => none
  | _ => none

/-- Sets the option that a flag stands for; the letter `u` stands for none. -/
def withFlag (flags : Regex.Flags) : Char → Regex.Flags
  | 'i' => { flags with caseless := true }
  | 'm' => { flags with multiLine := true }
  | 's' => { flags with dotAll := true }
  | 'x' => { flags with verbose := true }
  | _ => flags

/-- The options in force, which a source sets letter by letter. -/
def flagsOf (letters : List Char) : Regex.Flags := letters.foldl withFlag {}

def compile? (source : String) : Option Pattern :=
  let (body, letters) := (delimited? source.toList).getD (source.toList, [])
  (Regex.compile? (flagsOf letters) (String.ofList body)).map fun program => ⟨source, program⟩

def isMatch (p : Pattern) (text : String) : Bool := p.program.isMatch text

end Pattern

end PayloadCheck
