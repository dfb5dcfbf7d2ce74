import PayloadCheck.Execution.Options
import PayloadCheck.Json.Decoder

/-!
# Options as documents

How options are written and read. All options may be left out; no others are accepted.
-/

namespace PayloadCheck

namespace Mode

def all : List Mode := [collectAll, failFast]

def name : Mode → String
  | collectAll => "collect_all"
  | failFast => "fail_fast"

def toJson (m : Mode) : Json := .string m.name

def reader : Reader Mode := Decoder.choice (all.map fun m => (m.name, .bare m))

end Mode

namespace KeyLimit

def toJson : KeyLimit → Json
  | schemaFields => .string "schema_fields"
  | max n => .object [("max", .number (.integer n))]
  | disabled => .string "disabled"

def maxReader : Reader KeyLimit := fun s => do
  let t ← Decoder.natural "usize" s
  return t.map max

def reader : Reader KeyLimit :=
  Decoder.choice
    [("schema_fields", .bare schemaFields), ("max", .carrying maxReader),
      ("disabled", .bare disabled)]

def ofText (text : String) : Except String KeyLimit := Json.readText reader text

end KeyLimit

namespace Options

def toJson (o : Options) : Json :=
  .object [("mode", o.mode.toJson), ("key_limit", o.keyLimit.toJson)]

def modeField : Decoder.Field Options :=
  ⟨"mode", fun o s => do
    let t ← Mode.reader s
    return t.map fun mode => { o with mode := mode }⟩

def keyLimitField : Decoder.Field Options :=
  ⟨"key_limit", fun o s => do
    let t ← KeyLimit.reader s
    return t.map o.withKeyLimit⟩

def record : Decoder.Record Options where
  title := "struct EngineOptions"
  fields := [modeField, keyLimitField]
  start := standard
  lenient := true

def ofText (text : String) : Except String Options := Json.readText record.read text

end Options

end PayloadCheck
