import Schemata.Validator.Basic
/-!
# Absence — accepting what is missing

Each of these adds values that it accepts by itself, without asking the validator inside: undefined, null, or both.  The
output tells which of them came.
-/
namespace Schemata

/-- An output, or which kind of absence came in its place. -/
inductive Presence (α : Type) where
  | undefined
  | null
  | present (a : α)

namespace Presence

variable {α : Type}

def toOption : Presence α → Option α
  | .present a => some a
  | _ => none

end Presence

namespace Validator

variable {α : Type}

/-- Undefined, or what `inner` accepts. -/
def optional (inner : Validator α) : Validator (Option α) where
  run v path := if v.isUndefined then .success none else (inner.run v path).mapSuccess some
  toValue
    | none => .undefined
    | some a => inner.toValue a

/-- Null, or what `inner` accepts. -/
def nullable (inner : Validator α) : Validator (Option α) where
  run v path := if v.isNull then .success none else (inner.run v path).mapSuccess some
  toValue
    | none => .null
    | some a => inner.toValue a

/-- Undefined, null, or what `inner` accepts. -/
def nullish (inner : Validator α) : Validator (Presence α) where
  run v path :=
    match v with
    | .undefined => .success .undefined
    | .null => .success .null
    | other => (inner.run other path).mapSuccess .present
  toValue
    | .undefined => .undefined
    | .null => .null
    | .present a => inner.toValue a

end Validator
end Schemata
