import Schemata.Validator.Absence
import Schemata.Validator.Choice
import Schemata.Validator.Effects
import Schemata.Validator.Numeric
import Schemata.Validator.Record
import Schemata.Validator.Text
import Schemata.Validator.Union
/-!
# Schema — schemas as trees

A schema is a tree whose nodes are the validators of this library, references to registered schemas and checks that a
user has written.  `Schema.check` reads a tree as a check, given what it means to follow a reference; composites see
their children with outputs written as values, and so do tests and mappings; on outputs of another type these are
`Validator.refine` and `Validator.transform`.
-/
namespace Schemata

/-- A reference to whatever is registered under a name: the store that is asked, and the limit on how many references
may have been followed before this one. -/
structure Reference where
  store : Nat
  name : String
  limit : Nat
  deriving DecidableEq

inductive Schema where
  | string (rules : Rules TextRule)
  | number (rules : Rules NumericRule)
  | boolean (typeMessage : Option String)
  | enumeration (options : List String) (message : Option String)
  | array (rules : Rules LengthRule) (item : Schema)
  | object (shape : Shape Schema)
  | union (candidates : List Schema)
  | optional (inner : Schema)
  | nullable (inner : Schema)
  | nullish (inner : Schema)
  | default (inner : Schema) (supplier : Supplier)
  | refine (inner : Schema) (refinement : Refinement Value)
  | transform (inner : Schema) (mapping : Mapping Value Value)
  | reference (target : Reference)
  | custom (check : Check)

namespace Schema

mutual

/-- **The check that a schema describes**, where following a reference is `follow`. -/
def check (follow : Reference → Check) : Schema → Check
  | .string rules => (Validator.string rules).check
  | .number rules => (Validator.number rules).check
  | .boolean typeMessage => (Validator.boolean typeMessage).check
  | .enumeration options message => (Validator.enumeration options message).check
  | .array rules item => (Validator.array rules (.ofCheck (item.check follow))).check
  | .object ⟨fields, unknownKeys, typeMessage⟩ =>
    (Validator.object ⟨checkFields follow fields, unknownKeys, typeMessage⟩).check
  | .union candidates => .union (checkAll follow candidates)
  | .optional inner => (Validator.ofCheck (inner.check follow)).optional.check
  | .nullable inner => (Validator.ofCheck (inner.check follow)).nullable.check
  | .nullish inner => (Validator.ofCheck (inner.check follow)).nullish.check
  | .default inner supplier => ((Validator.ofCheck (inner.check follow)).default supplier).check
  | .refine inner refinement => ((Validator.ofCheck (inner.check follow)).refine refinement).check
  | .transform inner mapping => ((Validator.ofCheck (inner.check follow)).transform mapping id).check
  | .reference target => follow target
  | .custom check => check

def checkAll (follow : Reference → Check) : List Schema → List Check
  | [] => []
  | s :: rest => s.check follow :: checkAll follow rest

def checkFields (follow : Reference → Check) : List (String × Schema) → List (String × Check)
  | [] => []
  | (name, s) :: rest => (name, s.check follow) :: checkFields follow rest

end

theorem checkAll_eq_map (follow : Reference → Check) :
    ∀ l : List Schema, checkAll follow l = l.map (check follow)
  | [] => rfl
  | s :: rest => by rw [checkAll, checkAll_eq_map follow rest, List.map_cons]

theorem checkFields_eq_mapValues (follow : Reference → Check) :
    ∀ l : List (String × Schema), checkFields follow l = Entries.mapValues (check follow) l
  | [] => rfl
  | (name, s) :: rest => by
    rw [checkFields, checkFields_eq_mapValues follow rest]
    rfl

/-- **An object is checked by the shape of its fields' checks.** -/
theorem check_object (follow : Reference → Check) (shape : Shape Schema) :
    (Schema.object shape).check follow = (Validator.object (shape.map (check follow))).check := by
  obtain ⟨fields, unknownKeys, typeMessage⟩ := shape
  rw [check, checkFields_eq_mapValues]
  rfl

mutual

/-- The greatest limit among the references of a schema. -/
def greatestLimit : Schema → Nat
  | .array _ item => item.greatestLimit
  | .object ⟨fields, _, _⟩ => greatestLimitOfFields fields
  | .union candidates => greatestLimitOfAll candidates
  | .optional inner => inner.greatestLimit
  | .nullable inner => inner.greatestLimit
  | .nullish inner => inner.greatestLimit
  | .default inner _ => inner.greatestLimit
  | .refine inner _ => inner.greatestLimit
  | .transform inner _ => inner.greatestLimit
  | .reference target => target.limit
  | _ => 0

def greatestLimitOfAll : List Schema → Nat
  | [] => 0
  | s :: rest => max s.greatestLimit (greatestLimitOfAll rest)

def greatestLimitOfFields : List (String × Schema) → Nat
  | [] => 0
  | (_, s) :: rest => max s.greatestLimit (greatestLimitOfFields rest)

end

end Schema

/-- Makes every declared field accept its absence. -/
def Shape.allOptional (s : Shape Schema) : Shape Schema := s.map .optional

end Schemata
