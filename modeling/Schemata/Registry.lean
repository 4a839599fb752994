import Schemata.Schema
/-!
# Registry — schemas under names, and references to them

Schemas are kept in stores, and a store is reached through handles.  A handle can be copied, with a limit of its own;
all copies reach one store.  A store lives as long as some handle reaches it.  A name is registered once and for good.

A reference names a store and a schema in it, and is resolved each time it is followed (`Registries.follow`): so a
schema may refer to itself, or to one that is registered later.  Every reference carries the limit of the handle that
made it, and a path on which that many references were followed already is not followed further.  Hence `follow` can
count down the hops that are left, starting from the greatest limit there is; when none is left every limit is reached,
and the count never decides anything that a limit would not.
-/
namespace Schemata

abbrev Store := Entries Schema

/-- A way to reach a store, with the limit for references made through it. -/
structure Handle where
  store : Nat
  limit : Nat
  deriving DecidableEq

def Handle.defaultLimit : Nat := 100

/-- A reference to a name, whether it is registered yet or not. -/
def Handle.reference (h : Handle) (name : String) : Reference := ⟨h.store, name, h.limit⟩

/-- All stores, and the handles by their labels. -/
structure Registries where
  stores : List Store
  handles : Entries Handle

inductive RegistryError where
  | duplicateName (name : String)
  | schemaNotFound (name : String)
  deriving DecidableEq

def RegistryError.text : RegistryError → String
  | .duplicateName name => "schema '" ++ name ++ "' already registered"
  | .schemaNotFound name => "schema '" ++ name ++ "' not found"

inductive ReferenceFault where
  | tooDeep (limit : Nat) (path : Path)
  | outlived (name : String)
  | notFound (name : String)
  deriving DecidableEq

def ReferenceFault.text : ReferenceFault → String
  | .tooDeep limit path => "maximum reference depth " ++ Nat.repr limit ++ " exceeded at path '" ++ path.text ++ "'"
  | .outlived name => "reference to '" ++ name ++ "' outlived its registry"
  | .notFound name => "schema '" ++ name ++ "' not found in registry"

namespace Registries

def empty : Registries := ⟨[], []⟩

instance : Inhabited Registries := ⟨empty⟩

def contents (rs : Registries) (store : Nat) : Store := (rs.stores[store]?).getD []

/-- Whether some handle reaches a store. -/
def alive (rs : Registries) (store : Nat) : Bool := rs.handles.any fun h => h.2.store == store

/-- A new store, and a handle on it in place of any other of that label. -/
def create (rs : Registries) (label : String) (limit : Nat) : Registries :=
  ⟨rs.stores ++ [[]], rs.handles.insert label ⟨rs.stores.length, limit⟩⟩

/-- A handle on the same store, with another limit if one is given. -/
def clone (rs : Registries) (h : Handle) (label : String) (limit : Option Nat) : Registries :=
  { rs with handles := rs.handles.insert label { h with limit := limit.getD h.limit } }

def drop (rs : Registries) (label : String) : Registries := { rs with handles := rs.handles.erase label }

def get? (rs : Registries) (h : Handle) (name : String) : Option Schema := (rs.contents h.store).get? name

/-- **Registers a schema under a name**, unless the name is taken. -/
def register (rs : Registries) (h : Handle) (name : String) (s : Schema) : Except RegistryError Registries :=
  if (rs.contents h.store).has name then .error (.duplicateName name)
  else .ok { rs with stores := rs.stores.modify h.store fun store => store.insert name s }

/-- The registered names in ascending order. -/
def names (rs : Registries) (h : Handle) : List String :=
  (rs.contents h.store).keys.mergeSort fun a b => decide (a ≤ b)

/-- What a reference leads to at the moment. -/
def resolve (rs : Registries) (r : Reference) : Except ReferenceFault Schema :=
  if rs.alive r.store then
    match (rs.contents r.store).get? r.name with
    | some s => .ok s
    | none => .error (.notFound r.name)
  else .error (.outlived r.name)

/-- The verdict on a reference that cannot be followed. -/
def refuse (path : Path) (fault : ReferenceFault) : Outcome (Verdict Value) := .failure (.custom path fault.text)

/-- **Following a reference**, with a count of the hops that are left. -/
def follow (rs : Registries) : Nat → Reference → Check
  | 0, r => fun _ path => refuse path (.tooDeep r.limit path)
  | hops + 1, r => fun v path =>
    if r.limit ≤ path.references then refuse path (.tooDeep r.limit path)
    else
      match rs.resolve r with
      | .ok s => s.check (rs.follow hops) v path.followed
      | .error fault => refuse path fault

/-- **With hops enough for a reference's limit, only the limit decides** whether it is followed. -/
theorem follow_eq (rs : Registries) (hops : Nat) (r : Reference) (v : Value) (path : Path)
    (h : r.limit ≤ hops + path.references) :
    rs.follow hops r v path =
      if r.limit ≤ path.references then refuse path (.tooDeep r.limit path)
      else
        match rs.resolve r with
        | .ok s => s.check (rs.follow (hops - 1)) v path.followed
        | .error fault => refuse path fault := by
  cases hops with
  | zero => rw [if_pos (by omega)]; rfl
  | succ hops => rfl

/-- The greatest limit among the references of a schema and of all registered ones. -/
def greatestLimit (rs : Registries) (s : Schema) : Nat :=
  max s.greatestLimit ((rs.stores.map Schema.greatestLimitOfFields).foldl max 0)

/-- **The check that a schema describes**, its references resolved here. -/
def check (rs : Registries) (s : Schema) : Check := fun v path =>
  s.check (rs.follow (rs.greatestLimit s - path.references)) v path

/-- The outcome of validating against a registered schema, from the root. -/
def validateNamed (rs : Registries) (h : Handle) (name : String) (v : Value) :
    Except RegistryError (Outcome (Verdict Value)) :=
  match rs.get? h name with
  | some s => .ok (rs.check s v .root)
  | none => .error (.schemaNotFound name)

end Registries
end Schemata
