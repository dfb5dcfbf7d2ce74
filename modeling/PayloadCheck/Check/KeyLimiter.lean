import PayloadCheck.Json.Value
import PayloadCheck.Report.Verdict

/-!
# The limit on keys

A payload with too many keys gets one verdict, whose path lists the keys that are not known, in
the order of the payload.
-/

namespace PayloadCheck

structure KeyLimiter where
  limit : Nat
  known : List String
  deriving DecidableEq, Repr

namespace KeyLimiter

def unknownKeys (l : KeyLimiter) (payload : Object) : List String :=
  payload.keys.filter fun key => !l.known.contains key

def verdict (l : KeyLimiter) (payload : Object) : Verdict :=
  let expected := "at most " ++ toString l.limit ++ " keys"
  if payload.size ≤ l.limit then
    ⟨.valid, expected, toString payload.size, [], "Number of keys is within the limit"⟩
  else
    ⟨.invalidKeyLimiter, expected, toString payload.size,
      (l.unknownKeys payload).map .key, "Number of keys is above the limit"⟩

end KeyLimiter

end PayloadCheck
