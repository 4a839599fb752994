import Schemata.Entries
import Schemata.Path
/-!
# Report — what was found wrong with an input

A validation that fails hands back a report: issues in the order they were found, each with a place, a code and a
message.  A report may be empty; it is a failure all the same.  Reports join end to end (`Report.merge`), and can be
read as one line, as a numbered list, or grouped by place.
-/
namespace Schemata

inductive Code where
  | invalidType
  | tooSmall
  | tooBig
  | invalidString
  | invalidEnum
  | invalidArray
  | invalidObject
  | unrecognizedKeys
  | custom
  deriving DecidableEq

def Code.text : Code → String
  | .invalidType => "invalid_type"
  | .tooSmall => "too_small"
  | .tooBig => "too_big"
  | .invalidString => "invalid_string"
  | .invalidEnum => "invalid_enum"
  | .invalidArray => "invalid_array"
  | .invalidObject => "invalid_object"
  | .unrecognizedKeys => "unrecognized_keys"
  | .custom => "custom"

def Code.all : List Code :=
  [.invalidType, .tooSmall, .tooBig, .invalidString, .invalidEnum, .invalidArray, .invalidObject, .unrecognizedKeys,
    .custom]

def Code.ofText? (text : String) : Option Code := Code.all.find? (·.text = text)

theorem Code.ofText?_text (c : Code) : Code.ofText? c.text = some c := by cases c <;> decide

/-- The message of a value of the wrong kind. -/
def mismatchText (expected received : String) : String := "expected " ++ expected ++ ", received " ++ received

structure Issue where
  path : Path
  code : Code
  message : String
  deriving DecidableEq

namespace Issue

/-- A finding of a user's own rule. -/
def custom (path : Path) (message : String) : Issue := ⟨path, .custom, message⟩

/-- A value of the wrong kind. -/
def invalidType (path : Path) (expected received : String) : Issue :=
  ⟨path, .invalidType, mismatchText expected received⟩

/-- The place and the message; the root is named, since its own text is empty. -/
def text (i : Issue) : String := (if i.path.isRoot then "(root)" else i.path.text) ++ ": " ++ i.message

/-- What an issue says: everything but the references that its path counts. -/
def content (i : Issue) : List Segment × Code × String := (i.path.segments, i.code, i.message)

end Issue

/-- **Everything that was found**, in order. -/
structure Report where
  issues : List Issue
  deriving DecidableEq

namespace Report

def empty : Report := ⟨[]⟩

instance : Inhabited Report := ⟨empty⟩

def single (i : Issue) : Report := ⟨[i]⟩

/-- A report of one finding of a user's own rule. -/
def custom (path : Path) (message : String) : Report := single (.custom path message)

/-- The same issues and one more. -/
def push (r : Report) (i : Issue) : Report := ⟨r.issues ++ [i]⟩

/-- The issues of both, those of the first first. -/
def merge (r s : Report) : Report := ⟨r.issues ++ s.issues⟩

/-- The issues, and a failure from elsewhere as one custom issue. -/
def mergeFailure (r : Report) (path : Path) (text : String) : Report := r.push (.custom path text)

def size (r : Report) : Nat := r.issues.length

def hasIssues (r : Report) : Bool := !r.issues.isEmpty

def first? (r : Report) : Option Issue := r.issues.head?

def atPath (r : Report) (path : Path) : List Issue := r.issues.filter fun i => i.path.SamePlace path

def withCode (r : Report) (code : Code) : List Issue := r.issues.filter fun i => i.code = code

/-- The issues in one line. -/
def text (r : Report) : String := "; ".intercalate (r.issues.map Issue.text)

/-- The issues under numbers from one, a line each. -/
def numbered : Nat → List Issue → String
  | _, [] => ""
  | n, i :: rest => "  " ++ Nat.repr n ++ ". " ++ i.text ++ "\n" ++ numbered (n + 1) rest

/-- The issues as a numbered list under a heading. -/
def listing (r : Report) : String :=
  "Validation failed with " ++ Nat.repr r.size ++ " issue(s):\n" ++ numbered 1 r.issues

/-- **The messages grouped by the text of their place**, places in the order they first come up. -/
def flatten (r : Report) : Entries (List String) :=
  r.issues.foldl (fun groups i => groups.addTo i.path.text i.message) []

/-- The same issues in the same order, whatever references their paths count. -/
def Same (r s : Report) : Prop := r.issues.map Issue.content = s.issues.map Issue.content

instance (r s : Report) : Decidable (r.Same s) := by unfold Same; infer_instance

@[simp] theorem merge_assoc (r s t : Report) : (r.merge s).merge t = r.merge (s.merge t) := by simp [merge]

@[simp] theorem empty_merge (r : Report) : empty.merge r = r := by simp [merge, empty]

@[simp] theorem merge_empty (r : Report) : r.merge empty = r := by simp [merge, empty]

end Report
end Schemata
