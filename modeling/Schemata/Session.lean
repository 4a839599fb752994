import Schemata.Registry
/-!
# Session — what a client does with registries

A client keeps its handles under labels and does one thing after the other through them.  Several labels may hold handles
on one store, by cloning, and a label may be used again for another handle.  What is asked through a label that holds
none is not done.
-/
namespace Schemata

/-- One thing that a client does; a label that comes first is that of the handle to use. -/
inductive Operation where
  | create (label : String) (limit : Option Nat)
  | clone (source label : String) (limit : Option Nat)
  | drop (label : String)
  | register (label name : String) (schema : Schema)
  | get (label name : String)
  | contains (label name : String)
  | names (label : String)
  | reference (label name : String)
  | validate (label name : String) (value : Value)

inductive Answer where
  | done
  | noHandle
  | refused (error : RegistryError)
  | flag (holds : Bool)
  | found (schema : Option Schema)
  | names (names : List String)
  | reference (target : Reference)
  | outcome (outcome : Outcome (Verdict Value))

namespace Registries

/-- Goes through the handle of a label, if it holds one. -/
def through (rs : Registries) (label : String) (go : Handle → Registries × Answer) : Registries × Answer :=
  match rs.handles.get? label with
  | some h => go h
  | none => (rs, .noHandle)

/-- **Does one thing**: the registries after it, and the answer. -/
def perform (rs : Registries) : Operation → Registries × Answer
  | .create label limit => (rs.create label (limit.getD Handle.defaultLimit), .done)
  | .clone source label limit => rs.through source fun h => (rs.clone h label limit, .done)
  | .drop label => (rs.drop label, .flag (rs.handles.has label))
  | .register label name s => rs.through label fun h =>
    match rs.register h name s with
    | .ok rs' => (rs', .done)
    | .error e => (rs, .refused e)
  | .get label name => rs.through label fun h => (rs, .found (rs.get? h name))
  | .contains label name => rs.through label fun h => (rs, .flag (rs.get? h name).isSome)
  | .names label => rs.through label fun h => (rs, .names (rs.names h))
  | .reference label name => rs.through label fun h => (rs, .reference (h.reference name))
  | .validate label name v => rs.through label fun h =>
    match rs.validateNamed h name v with
    | .ok o => (rs, .outcome o)
    | .error e => (rs, .refused e)

end Registries
end Schemata
