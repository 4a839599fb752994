import Schemata.Pattern.Email
import Schemata.Pattern.Reader
import Schemata.Validator.Rules
/-!
# Text — validating strings

A string is checked against its rules in order and the first one that fails is reported.  Lengths count characters.
-/
namespace Schemata

inductive TextRule where
  | minLength (n : Nat)
  | maxLength (n : Nat)
  | pattern (p : Pattern)
  | email
  | startsWith (s : String)
  | endsWith (s : String)

namespace TextRule

def holds : TextRule → String → Bool
  | .minLength n, s => n ≤ s.length
  | .maxLength n, s => s.length ≤ n
  | .pattern p, s => p.matchesIn s
  | .email, s => Email.accepts s
  | .startsWith t, s => t.toList.isPrefixOf s.toList
  | .endsWith t, s => t.toList.isSuffixOf s.toList

def code : TextRule → Code
  | .minLength _ => .tooSmall
  | .maxLength _ => .tooBig
  | _ => .invalidString

def message : TextRule → String → String
  | .minLength n, s => "string must contain at least " ++ Nat.repr n ++ " character(s), got " ++ Nat.repr s.length
  | .maxLength n, s => "string must contain at most " ++ Nat.repr n ++ " character(s), got " ++ Nat.repr s.length
  | .pattern p, _ => "string must match pattern '" ++ p.source ++ "'"
  | .email, _ => "invalid email"
  | .startsWith t, _ => "string must start with '" ++ t ++ "'"
  | .endsWith t, _ => "string must end with '" ++ t ++ "'"

instance : Rule TextRule String := ⟨holds, code, message⟩

end TextRule

/-- What can be demanded of a string. -/
inductive TextDemand where
  | minLength (n : Nat)
  | maxLength (n : Nat)
  | exactLength (n : Nat)
  | nonEmpty
  | pattern (p : Pattern)
  | email
  | startsWith (s : String)
  | endsWith (s : String)

/-- The rules of a demand.  An exact length is demanded from below and then from above. -/
def TextDemand.rules : TextDemand → List TextRule
  | .minLength n => [.minLength n]
  | .maxLength n => [.maxLength n]
  | .exactLength n => [.minLength n, .maxLength n]
  | .nonEmpty => [.minLength 1]
  | .pattern p => [.pattern p]
  | .email => [.email]
  | .startsWith s => [.startsWith s]
  | .endsWith s => [.endsWith s]

instance : Demand TextDemand TextRule where
  rules := TextDemand.rules
  rules_ne_nil d := by cases d <;> exact List.cons_ne_nil _ _

def Validator.string (rules : Rules TextRule) : Validator String where
  run v path :=
    match v with
    | .string s => .ready (rules.firstViolation path s)
    | other => mismatch path .invalidType "string" other rules.typeMessage
  toValue := .string

end Schemata
