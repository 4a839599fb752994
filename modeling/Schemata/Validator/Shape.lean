import Schemata.Entries
/-!
# Shape — the declared fields of an object

A shape lists fields in the order they were declared, and says what becomes of entries that were not declared.  What
stands under a field name is left open: a schema when shapes are built, a check when objects are validated.
-/
namespace Schemata

/-- What becomes of an entry that no field declares. -/
inductive UnknownKeys where
  | strip
  | strict
  | passthrough
  deriving DecidableEq

instance : Inhabited UnknownKeys := ⟨.strip⟩

/-- The fields of an object, the mode for other entries, and the words for a value that is no object. -/
structure Shape (σ : Type) where
  fields : List (String × σ)
  unknownKeys : UnknownKeys
  typeMessage : Option String

namespace Shape

variable {σ τ : Type}

/-- No fields; other entries are stripped. -/
def empty : Shape σ := ⟨[], .strip, none⟩

def keys (s : Shape σ) : List String := Entries.keys s.fields

/-- Declares a field; declaring a name again replaces what stands there. -/
def field (s : Shape σ) (name : String) (content : σ) : Shape σ :=
  { s with fields := Entries.insert s.fields name content }

/-- Declares every field of another shape; mode and words stay. -/
def extend (s other : Shape σ) : Shape σ := { s with fields := Entries.insertAll s.fields other.fields }

/-- Keeps only the named fields, in their order. -/
def pick (s : Shape σ) (names : List String) : Shape σ :=
  { s with fields := Entries.restrict (names.contains ·) s.fields }

/-- Drops the named fields. -/
def without (s : Shape σ) (names : List String) : Shape σ :=
  { s with fields := Entries.restrict (!names.contains ·) s.fields }

def withUnknownKeys (s : Shape σ) (mode : UnknownKeys) : Shape σ := { s with unknownKeys := mode }

def error (s : Shape σ) (message : String) : Shape σ := { s with typeMessage := some message }

def map (f : σ → τ) (s : Shape σ) : Shape τ := ⟨Entries.mapValues f s.fields, s.unknownKeys, s.typeMessage⟩

end Shape
end Schemata
