import Schemata.Validator.Basic
/-!
# Rules — constraints in a row, each with its own words

A schema of strings, numbers or arrays carries a message for values of another type and a row of rules in the order they
were added.  It is made clause by clause (`Rules.ofClauses`): a clause makes a demand, which adds one rule or more, or
sets a message, which is that of the latest rule, and that of the type while there is no rule yet.
-/
namespace Schemata

/-- What a rule of type `κ` says about a `σ`: whether it holds, and the code and the words of its violation. -/
class Rule (κ : Type) (σ : outParam Type) where
  holds : κ → σ → Bool
  code : κ → Code
  message : κ → σ → String

/-- A rule, and the words that replace its own. -/
structure Constraint (κ : Type) where
  rule : κ
  message : Option String

/-- The constraints of a schema, and the words for a value of the wrong type. -/
structure Rules (κ : Type) where
  typeMessage : Option String
  constraints : List (Constraint κ)

/-- What can be demanded of a value by name, and the rules that a demand adds: at least one. -/
class Demand (δ : Type) (κ : outParam Type) where
  rules : δ → List κ
  rules_ne_nil : ∀ d, rules d ≠ []

/-- One clause in the making of a schema: a demand to make, or a message to set. -/
inductive Clause (δ : Type) where
  | demand (d : δ)
  | error (message : String)

namespace Rules

variable {δ κ σ : Type}

def empty : Rules κ := ⟨none, []⟩

/-- One more rule, in its own words. -/
def add (rs : Rules κ) (rule : κ) : Rules κ := { rs with constraints := rs.constraints ++ [⟨rule, none⟩] }

/-- **Sets the message of the latest rule**, of the type while there is none. -/
def error (rs : Rules κ) (message : String) : Rules κ :=
  match rs.constraints.getLast? with
  | some last => { rs with constraints := rs.constraints.dropLast ++ [{ last with message := some message }] }
  | none => { rs with typeMessage := some message }

section Making

variable [Demand δ κ]

def apply (rs : Rules κ) : Clause δ → Rules κ
  | .demand d => (Demand.rules d).foldl add rs
  | .error message => rs.error message

def ofClauses (clauses : List (Clause δ)) : Rules κ := clauses.foldl apply empty

end Making

variable [Rule κ σ]

/-- The issue of a constraint that does not hold. -/
def issue? (path : Path) (x : σ) (c : Constraint κ) : Option Issue :=
  if Rule.holds c.rule x then none else some ⟨path, Rule.code c.rule, c.message.getD (Rule.message c.rule x)⟩

/-- The issues of all constraints that do not hold, in their order. -/
def violations (rs : Rules κ) (path : Path) (x : σ) : List Issue := rs.constraints.filterMap (issue? path x)

/-- The verdict that reports only the first violation. -/
def firstViolation (rs : Rules κ) (path : Path) (x : σ) : Verdict σ :=
  match rs.violations path x with
  | [] => .ok x
  | i :: _ => .error (.single i)

end Rules
end Schemata
