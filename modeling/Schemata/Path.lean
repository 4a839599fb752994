import Schemata.Json
/-!
# Path — where in the input something stands

A path lists the field names and item positions that lead from the root to a place.  It also counts how many schema
references were followed on the way; the count travels with the path but says nothing about the place, so it takes no
part in its text, and `Path.SamePlace` compares the segments alone.
-/
namespace Schemata

inductive Segment where
  | field (name : String)
  | index (position : Nat)
  deriving DecidableEq

def Segment.toJson : Segment → Json
  | .field name => .string name
  | .index position => .int position

/-- The segment by itself, without marks. -/
def Segment.text : Segment → String
  | .field name => name
  | .index position => Nat.repr position

/-- A place in the input, and the number of references followed to reach it. -/
structure Path where
  segments : List Segment
  references : Nat
  deriving DecidableEq

namespace Path

def root : Path := ⟨[], 0⟩

instance : Inhabited Path := ⟨root⟩

/-- The path of a list of segments; no reference was followed. -/
def ofSegments (segments : List Segment) : Path := ⟨segments, 0⟩

def child (p : Path) (s : Segment) : Path := { p with segments := p.segments ++ [s] }

def field (p : Path) (name : String) : Path := p.child (.field name)

def index (p : Path) (position : Nat) : Path := p.child (.index position)

/-- The same place after one more reference. -/
def followed (p : Path) : Path := { p with references := p.references + 1 }

def isRoot (p : Path) : Bool := p.segments.isEmpty

def length (p : Path) : Nat := p.segments.length

/-- The path without its last segment; the root has none. -/
def parent? (p : Path) : Option Path :=
  if p.segments = [] then none else some { p with segments := p.segments.dropLast }

def last? (p : Path) : Option Segment := p.segments.getLast?

/-- Two paths lead to the same place, however many references either followed. -/
def SamePlace (p q : Path) : Prop := p.segments = q.segments

instance (p q : Path) : Decidable (p.SamePlace q) := inferInstanceAs (Decidable (p.segments = q.segments))

/-- A position in brackets; a name with a point before it unless it comes first. -/
def renderSegments : Bool → List Segment → String
  | _, [] => ""
  | first, .field name :: rest => (if first then name else "." ++ name) ++ renderSegments false rest
  | _, .index position :: rest => "[" ++ Nat.repr position ++ "]" ++ renderSegments false rest

/-- The text of a path, empty at the root. -/
def text (p : Path) : String := renderSegments true p.segments

def toJson (p : Path) : Json := .array (p.segments.map Segment.toJson)

@[simp] theorem references_child (p : Path) (s : Segment) : (p.child s).references = p.references := rfl

@[simp] theorem segments_child (p : Path) (s : Segment) : (p.child s).segments = p.segments ++ [s] := rfl

@[simp] theorem references_followed (p : Path) : p.followed.references = p.references + 1 := rfl

@[simp] theorem segments_followed (p : Path) : p.followed.segments = p.segments := rfl

end Path
end Schemata
