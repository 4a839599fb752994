import Schemata.Validator.Sequence
import Schemata.Validator.Shape
/-!
# Record — validating objects

Every declared field is validated at its place in the order of declaration, a missing entry as an undefined value.  In
strict mode each entry that was not declared is an issue after those of the fields.  The issues alone decide: without
any the output holds the fields whose output is not undefined, in the order of declaration, and in passthrough mode the
undeclared entries after them as they came.
-/
namespace Schemata

/-- The issue of an entry that was not declared. -/
def unrecognizedKey (path : Path) (key : String) : Issue :=
  ⟨path.field key, .unrecognizedKeys, "unrecognized key '" ++ key ++ "'"⟩

namespace Shape

variable {σ : Type}

/-- The entries of an object that the shape does not declare. -/
def undeclared (s : Shape σ) (entries : Entries Value) : Entries Value :=
  Entries.restrict (fun key => key ∉ s.keys) entries

/-- The issues of undeclared entries: one each in strict mode. -/
def unknownIssues (s : Shape σ) (path : Path) (entries : Entries Value) : List Issue :=
  match s.unknownKeys with
  | .strict => (Entries.keys (s.undeclared entries)).map (unrecognizedKey path)
  | _ => []

/-- The undeclared entries that reach the output: all in passthrough mode. -/
def carriedOver (s : Shape σ) (entries : Entries Value) : Entries Value :=
  match s.unknownKeys with
  | .passthrough => s.undeclared entries
  | _ => []

end Shape

/-- The entry of a field in the output; an undefined output leaves none. -/
def outputField? : String × Verdict Value → Option (String × Value)
  | (_, .ok .undefined) => none
  | (name, .ok v) => some (name, v)
  | (_, .error _) => none

/-- **The verdict on all fields**: a report of every issue, or the entries of the output if there is none. -/
def Shape.assemble (s : Shape Check) (path : Path) (entries : Entries Value) (verdicts : List (Verdict Value)) :
    Verdict (Entries Value) :=
  match verdicts.flatMap Verdict.issues ++ s.unknownIssues path entries with
  | [] => .ok ((s.keys.zip verdicts).filterMap outputField? ++ s.carriedOver entries)
  | issues => .error ⟨issues⟩

/-- The outcomes of the fields on an object, in the order of declaration. -/
def Shape.fieldOutcomes (s : Shape Check) (path : Path) (entries : Entries Value) : List (Outcome (Verdict Value)) :=
  s.fields.map fun f => f.2 ((Entries.get? entries f.1).getD .undefined) (path.field f.1)

def Validator.object (s : Shape Check) : Validator (Entries Value) where
  run v path :=
    match v with
    | .object entries => (Outcome.join (s.fieldOutcomes path entries)).map (s.assemble path entries)
    | other => mismatch path .invalidObject "object" other s.typeMessage
  toValue := .object

end Schemata
