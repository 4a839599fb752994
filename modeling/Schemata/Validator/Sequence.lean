import Schemata.Validator.Rules
/-!
# Sequence — validating arrays

Every item is validated at its position, whatever the length rules say.  The verdict is decided by the issues alone:
those of the length rules, all of them, and then those of the items in their order.  With no issue at all the outputs of
the items that have one are the output; so an item that fails with an empty report is passed over.
-/
namespace Schemata

inductive LengthRule where
  | atLeast (n : Nat)
  | atMost (n : Nat)

namespace LengthRule

def holds : LengthRule → Nat → Bool
  | .atLeast n, length => n ≤ length
  | .atMost n, length => length ≤ n

def code : LengthRule → Code
  | .atLeast _ => .tooSmall
  | .atMost _ => .tooBig

def message : LengthRule → Nat → String
  | .atLeast n, length => "array must contain at least " ++ Nat.repr n ++ " item(s), got " ++ Nat.repr length
  | .atMost n, length => "array must contain at most " ++ Nat.repr n ++ " item(s), got " ++ Nat.repr length

instance : Rule LengthRule Nat := ⟨holds, code, message⟩

end LengthRule

/-- What can be demanded of the length of an array. -/
inductive LengthDemand where
  | atLeast (n : Nat)
  | atMost (n : Nat)
  | nonEmpty

/-- The rule of a demand. -/
def LengthDemand.rules : LengthDemand → List LengthRule
  | .atLeast n => [.atLeast n]
  | .atMost n => [.atMost n]
  | .nonEmpty => [.atLeast 1]

instance : Demand LengthDemand LengthRule where
  rules := LengthDemand.rules
  rules_ne_nil d := by cases d <;> exact List.cons_ne_nil _ _

namespace Verdict

variable {α : Type}

/-- The issues found beforehand and those of some verdicts, in order. -/
def allIssues (before : List Issue) (verdicts : List (Verdict α)) : List Issue := before ++ verdicts.flatMap issues

/-- **The verdict on all items**: a report of every issue, or the outputs if there is none. -/
def gather (before : List Issue) (verdicts : List (Verdict α)) : Verdict (List α) :=
  match allIssues before verdicts with
  | [] => .ok (verdicts.filterMap output?)
  | issues => .error ⟨issues⟩

end Verdict

/-- Arrays of a length that keeps every rule, of items that `item` accepts. -/
def Validator.array {α : Type} (rules : Rules LengthRule) (item : Validator α) : Validator (List α) where
  run v path :=
    match v with
    | .array items =>
      (Outcome.join (items.mapIdx fun i v => item.run v (path.index i))).map
        (Verdict.gather (rules.violations path items.length))
    | other => mismatch path .invalidArray "array" other rules.typeMessage
  toValue outputs := .array (outputs.map item.toValue)

end Schemata
