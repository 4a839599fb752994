import Schemata.Validator.Basic
/-!
# Effects — the steps that users add

A supplier gives a value in place of an undefined one, a refinement tests an output, and a mapping makes another output
of it or refuses.  Each is a step: calling it is recorded, and its answer may be deferred.  A step that refuses gives
one custom issue at the current place.
-/
namespace Schemata

/-- Where a supplied value comes from: it is given, or it is the next number of a counter. -/
inductive Source where
  | given (answer : Except String Value)
  | counted (counter start : Nat)

/-- What stands in for an undefined value. -/
structure Supplier where
  source : Source
  step : Step

/-- A test of an output, with the words for its refusal. -/
structure Refinement (α : Type) where
  test : α → Bool
  message : String
  step : Step

/-- A change of an output, which may refuse. -/
structure Mapping (α β : Type) where
  apply : α → Except String β
  step : Step

/-- A step that answers in its call and has no tag. -/
def Step.plain : Step := ⟨none, .immediate⟩

/-- The words of a refinement that has none of its own. -/
def refinementText : String := "Invalid value"

/-- The words for a default that did not come. -/
def noDefaultText (reason : String) : String := "default value could not be produced: " ++ reason

def Supplier.fixed (v : Value) : Supplier := ⟨.given (.ok v), .plain⟩

def Supplier.call (s : Supplier) : Outcome (Except String Value) :=
  match s.source with
  | .given answer => s.step.call answer
  | .counted counter start => .draw counter fun n => s.step.call (.ok (.ofInt (start + n)))

namespace Validator

variable {α β : Type}

/-- What `inner` accepts, and in place of an undefined value the supplied one. -/
def default (inner : Validator α) (supplier : Supplier) : Validator α where
  run v path :=
    if v.isUndefined then
      supplier.call.bind fun
        | .ok supplied => inner.run supplied path
        | .error reason => .failure (.custom path (noDefaultText reason))
    else inner.run v path
  toValue := inner.toValue

/-- What `inner` accepts and the refinement passes. -/
def refine (inner : Validator α) (r : Refinement α) : Validator α where
  run v path := (inner.run v path).andThen fun a =>
    (r.step.call (r.test a)).map fun passed => if passed then .ok a else .error (.custom path r.message)
  toValue := inner.toValue

/-- What `inner` accepts, made into something else. -/
def transform (inner : Validator α) (m : Mapping α β) (toValue : β → Value) : Validator β where
  run v path := (inner.run v path).andThen fun a =>
    (m.step.call (m.apply a)).map fun
      | .ok b => .ok b
      | .error reason => .error (.custom path reason)
  toValue := toValue

end Validator
end Schemata
