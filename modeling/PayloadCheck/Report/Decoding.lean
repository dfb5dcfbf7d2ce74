import PayloadCheck.Json.Decoder
import PayloadCheck.Report.Verdict

/-!
# Reading reports

The counterpart of the encoding: verdicts and paths are read back from their documents. A segment
of a path is told by its value alone, so any value is read in its place and those that are neither
a string nor a natural number below `PathSegment.indexLimit` are refused afterwards.
-/

namespace PayloadCheck

namespace PathSegment

def indexLimit : Nat := Nat.pow 2 64

def ofJson? : Json → Option PathSegment
  | .string name => some (key name)
  | .number (.integer i) => if 0 ≤ i && i < indexLimit then some (index i.toNat) else none
  | _ => none

/-- A segment, where brackets may still nest `depth` deep. -/
def reader (depth : Nat) : Reader PathSegment := fun s => do
  let t ← Json.value depth s
  match ofJson? t.value with
  | some segment => return t.map fun _ => segment
  | none => .error ⟨.noAlternative "PathSegment", .pending t.rest⟩

end PathSegment

namespace Path

/-- A path, where brackets may still nest `depth` deep inside it. -/
def reader (depth : Nat) : Reader Path := Decoder.list "a sequence" (PathSegment.reader depth)

def ofText (text : String) : Except String Path :=
  Json.readText (reader (Json.nesting - 1)) text

end Path

namespace VerdictCode

def reader : Reader VerdictCode := Decoder.choice (all.map fun c => (c.name, .bare c))

end VerdictCode

namespace Verdict

def blank : Verdict := ⟨.valid, "", "", [], ""⟩

/-- A field that holds a string. -/
def textField (name : String) (put : Verdict → String → Verdict) : Decoder.Field Verdict :=
  ⟨name, fun v s => do
    let t ← Decoder.text "a string" s
    return t.map (put v)⟩

def codeField : Decoder.Field Verdict :=
  ⟨"code", fun v s => do
    let t ← VerdictCode.reader s
    return t.map fun code => { v with code := code }⟩

def pathField : Decoder.Field Verdict :=
  ⟨"path", fun v s => do
    let t ← Path.reader (Json.nesting - 2) s
    return t.map fun path => { v with path := path }⟩

def record : Decoder.Record Verdict where
  title := "struct ValidationResult"
  fields :=
    [codeField, textField "expected" fun v text => { v with expected := text },
      textField "received" fun v text => { v with received := text }, pathField,
      textField "message" fun v text => { v with message := text }]
  start := blank
  lenient := false

def ofText (text : String) : Except String Verdict := Json.readText record.read text

end Verdict

end PayloadCheck
