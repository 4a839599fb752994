import Schemata.Schema
/-!
# Vocabulary — tests, edits and checks that are data

A user's steps are functions.  Those named here can be written down, compared and sent: tests of a value
(`Predicate.holds`), edits of one (`Edit.apply`), and three checks of the kind a user would write.
-/
namespace Schemata

inductive Predicate where
  | always
  | never
  | equalTo (v : Value)
  | hasType (name : String)
  | above (bound : Number)
  | hasKey (key : String)
  | fieldsInOrder (low high : String)
  | sizeAtMost (n : Nat)
  | negation (p : Predicate)

/-- The order of numbers that may be missing: what is missing comes first. -/
def optionAtMost : Option Number → Option Number → Bool
  | none, _ => true
  | some _, none => false
  | some a, some b => a.atMost b

/-- The size of a value: characters, items or entries. -/
def Value.size? : Value → Option Nat
  | .string s => some s.length
  | .array items => some items.length
  | .object entries => some entries.length
  | _ => none

def Predicate.holds : Predicate → Value → Bool
  | .always, _ => true
  | .never, _ => false
  | .equalTo w, v => v.equals w
  | .hasType name, v => v.typeName == name
  | .above bound, v => v.number?.any bound.below
  | .hasKey key, v => (v.get? key).isSome
  | .fieldsInOrder low high, v =>
    optionAtMost ((v.get? low).bind Value.number?) ((v.get? high).bind Value.number?)
  | .sizeAtMost n, v => v.size?.any (· ≤ n)
  | .negation p, v => !p.holds v

inductive Edit where
  | constant (v : Value)
  | identity
  | typeName
  | throughJson
  | wrap
  | entry (key : String)
  | add (x : Number)
  | putBefore (s : String)
  | refuse (reason : String)
  | refuseUnless (p : Predicate) (reason : String)

def Edit.apply : Edit → Value → Except String Value
  | .constant w, _ => .ok w
  | .identity, v => .ok v
  | .typeName, v => .ok (.string v.typeName)
  | .throughJson, v => .ok (.ofJson v.toJson)
  | .wrap, v => .ok (.array [v])
  | .entry key, v => .ok (v.get key)
  | .add x, .number y => .ok (.number (y.add x))
  | .add _, v => .ok v
  | .putBefore s, .string t => .ok (.string (s ++ t))
  | .putBefore _, v => .ok v
  | .refuse reason, _ => .error reason
  | .refuseUnless p reason, v => if p.holds v then .ok v else .error reason

namespace Check

def accepting : Check := fun v _ => .success v

/-- Accepts every value and tells where it stands: its place, the references followed, and its type. -/
def describing : Check := fun v path =>
  .success (.object [
    ("path", .string path.text),
    ("refs", .ofInt path.references),
    ("got", .string v.typeName)])

/-- Refuses every value with given issues, all at its place; there may be none. -/
def failing (issues : List (Code × String)) : Check := fun _ path =>
  .failure ⟨issues.map fun i => ⟨path, i.1, i.2⟩⟩

end Check
end Schemata
