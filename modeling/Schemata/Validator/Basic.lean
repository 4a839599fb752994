import Schemata.Outcome.Basic
import Schemata.Report
import Schemata.Value
/-!
# Validator — what every schema comes down to

A validator takes a value and the place it stands at, and answers with an outcome: sooner or later a verdict, which is
an output or a report.  Its outputs have a type of their own, and `toValue` writes them as values; `Validator.erased` is
the same validator with the outputs written, so that validators of different types can stand side by side.
-/
namespace Schemata

/-- An output, or a report of what is wrong. -/
abbrev Verdict (α : Type) := Except Report α

namespace Verdict

variable {α β : Type}

def map (f : α → β) : Verdict α → Verdict β
  | .ok a => .ok (f a)
  | .error r => .error r

def issues : Verdict α → List Issue
  | .ok _ => []
  | .error r => r.issues

def output? : Verdict α → Option α
  | .ok a => some a
  | .error _ => none

end Verdict

namespace Outcome

variable {α β : Type}

def success (a : α) : Outcome (Verdict α) := .ready (.ok a)

def failure (r : Report) : Outcome (Verdict α) := .ready (.error r)

/-- Changes the output, if that is what comes. -/
def mapSuccess (f : α → β) (o : Outcome (Verdict α)) : Outcome (Verdict β) := o.map (Verdict.map f)

/-- **Goes on with the output, if that is what comes**; a report passes through and nothing more is done. -/
def andThen (o : Outcome (Verdict α)) (f : α → Outcome (Verdict β)) : Outcome (Verdict β) :=
  o.bind fun
    | .ok a => f a
    | .error r => .failure r

end Outcome

/-- Validation into plain values. -/
abbrev Check := Value → Path → Outcome (Verdict Value)

/-- A validator with outputs of type `α`, and how those are written as values. -/
structure Validator (α : Type) where
  run : Value → Path → Outcome (Verdict α)
  toValue : α → Value

namespace Validator

variable {α : Type}

/-- **The same validation, with outputs written as values.** -/
def check (s : Validator α) : Check := fun v p => (s.run v p).mapSuccess s.toValue

/-- A check as a validator; its outputs are values already. -/
def ofCheck (c : Check) : Validator Value := ⟨c, id⟩

/-- The validator of the written outputs. -/
def erased (s : Validator α) : Validator Value := ofCheck s.check

end Validator

/-- The verdict on a value of the wrong type: one issue, in the schema's own words if it has any. -/
def mismatch {α : Type} (path : Path) (code : Code) (expected : String) (received : Value) (message : Option String) :
    Outcome (Verdict α) :=
  .failure (.single ⟨path, code, message.getD (mismatchText expected received.typeName)⟩)

end Schemata
