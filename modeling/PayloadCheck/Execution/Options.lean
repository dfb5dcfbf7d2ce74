/-!
# Options

How a run reacts to a failing verdict, and how many keys a payload may have.
-/

namespace PayloadCheck

inductive Mode where
  | collectAll
  | failFast
  deriving DecidableEq, Repr

inductive KeyLimit where
  /-- As many as the template has fields. -/
  | schemaFields
  | max (n : Nat)
  | disabled
  deriving DecidableEq, Repr

/-- The number of keys allowed, if there is a limit. -/
def KeyLimit.resolve (fieldCount : Nat) : KeyLimit → Option Nat
  | schemaFields => some fieldCount
  | max n => some n
  | disabled => none

structure Options where
  mode : Mode
  keyLimit : KeyLimit
  deriving DecidableEq, Repr

namespace Options

def standard : Options := ⟨.collectAll, .schemaFields⟩

def failingFast (o : Options) : Options := { o with mode := .failFast }

def withKeyLimit (o : Options) (limit : KeyLimit) : Options := { o with keyLimit := limit }

end Options

end PayloadCheck
