import PayloadCheck.Json.Decoder
import PayloadCheck.Schema.Constraint

/-!
# Reading constraint tags
-/

namespace PayloadCheck

namespace ConstraintKind

def reader : Reader ConstraintKind := Decoder.choice (all.map fun k => (k.tag, .bare k))

def ofText (text : String) : Except String ConstraintKind := Json.readText reader text

end ConstraintKind

end PayloadCheck
