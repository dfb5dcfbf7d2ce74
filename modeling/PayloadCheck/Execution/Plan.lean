import PayloadCheck.Check.Basic
import PayloadCheck.Check.KeyLimiter
import PayloadCheck.Execution.Options

/-!
# Plans

A plan lists what a run will check: the number of keys, and each field's checks in their order.
-/

namespace PayloadCheck

structure FieldPlan where
  name : String
  checks : List Check

def FieldPlan.kinds (f : FieldPlan) : List ConstraintKind := f.checks.map Check.kind

structure Plan where
  keyLimiter : Option KeyLimiter
  fields : List FieldPlan

namespace Plan

def build (t : Template) (limit : KeyLimit) : Plan :=
  ⟨(limit.resolve t.size).map fun n => ⟨n, t.names⟩,
    t.fields.map fun (name, spec) => ⟨name, Check.ofSpec spec⟩⟩

def field? (p : Plan) (name : String) : Option FieldPlan :=
  p.fields.find? fun f => f.name = name

def limit? (p : Plan) : Option Nat := p.keyLimiter.map KeyLimiter.limit

def checkCount (p : Plan) : Nat := (p.fields.flatMap FieldPlan.checks).length

end Plan

end PayloadCheck
