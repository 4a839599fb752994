import Schemata.Number.Decimal
import Schemata.Validator.Rules
/-!
# Numeric — validating numbers

A number is checked against its rules in order and the first one that fails is reported.  *Not a number* is of the wrong
type; a rule with such a bound holds of nothing.
-/
namespace Schemata

inductive NumericRule where
  | atLeast (x : Number)
  | above (x : Number)
  | atMost (x : Number)
  | below (x : Number)
  | integral
  | finite

namespace NumericRule

def holds : NumericRule → Number → Bool
  | .atLeast x, n => x.atMost n
  | .above x, n => x.below n
  | .atMost x, n => n.atMost x
  | .below x, n => n.below x
  | .integral, n => n.isIntegral
  | .finite, n => n.isFinite

def code : NumericRule → Code
  | .atLeast _ => .tooSmall
  | .above _ => .tooSmall
  | .atMost _ => .tooBig
  | .below _ => .tooBig
  | .integral => .invalidType
  | .finite => .invalidType

/-- The words for a number on the wrong side of a bound. -/
def boundText (relation : String) (bound n : Number) : String :=
  "number must be " ++ relation ++ " " ++ bound.text ++ ", got " ++ n.text

def message : NumericRule → Number → String
  | .atLeast x, n => boundText "greater than or equal to" x n
  | .above x, n => boundText "greater than" x n
  | .atMost x, n => boundText "less than or equal to" x n
  | .below x, n => boundText "less than" x n
  | .integral, n => mismatchText "integer" n.text
  | .finite, _ => mismatchText "finite number" "infinity"

instance : Rule NumericRule Number := ⟨holds, code, message⟩

end NumericRule

/-- What can be demanded of a number. -/
inductive NumericDemand where
  | atLeast (x : Number)
  | above (x : Number)
  | atMost (x : Number)
  | below (x : Number)
  | between (lo hi : Number)
  | positive
  | nonNegative
  | negative
  | integral
  | finite

/-- The rules of a demand.  Between two bounds, both allowed: at least the first and then at most the second. -/
def NumericDemand.rules : NumericDemand → List NumericRule
  | .atLeast x => [.atLeast x]
  | .above x => [.above x]
  | .atMost x => [.atMost x]
  | .below x => [.below x]
  | .between lo hi => [.atLeast lo, .atMost hi]
  | .positive => [.above .zero]
  | .nonNegative => [.atLeast .zero]
  | .negative => [.below .zero]
  | .integral => [.integral]
  | .finite => [.finite]

instance : Demand NumericDemand NumericRule where
  rules := NumericDemand.rules
  rules_ne_nil d := by cases d <;> exact List.cons_ne_nil _ _

def Validator.number (rules : Rules NumericRule) : Validator Number where
  run v path :=
    match v with
    | .number x =>
      if x.isNan then mismatch path .invalidType "number" v rules.typeMessage
      else .ready (rules.firstViolation path x)
    | other => mismatch path .invalidType "number" other rules.typeMessage
  toValue := .number

end Schemata
