import Schemata.Json
/-!
# Value — the untyped inputs and outputs of validation

A value has the shape of a JSON document with two differences: a missing thing is a value of its own,
`Value.undefined`, told apart from `Value.null`, and every number is a 64-bit binary one, so that *not a number* and the
infinities are there until a schema turns them away.

`Value.ofJson` reads a document and `Value.toJson` writes one.  Writing loses what a document cannot say: an undefined
entry of an object is left out, any other undefined value and every number that is not finite become `null`, and a whole
number in the 64-bit signed range is written without a point.
-/
namespace Schemata

/-- An untyped value; the names in an object keep their order. -/
inductive Value where
  | undefined
  | null
  | bool (b : Bool)
  | number (x : Number)
  | string (s : String)
  | array (items : List Value)
  | object (entries : List (String × Value))

namespace Value

instance : Inhabited Value := ⟨.undefined⟩

/-- The name of a value's type, as messages give it; *not a number* has a name of its own. -/
def typeName : Value → String
  | .undefined => "undefined"
  | .null => "null"
  | .bool _ => "boolean"
  | .number x => if x.isNan then "nan" else "number"
  | .string _ => "string"
  | .array _ => "array"
  | .object _ => "object"

def isUndefined : Value → Bool
  | .undefined => true
  | _ => false

theorem eq_undefined {v : Value} (h : v.isUndefined = true) : v = .undefined := by
  cases v with
  | undefined => rfl
  | _ => cases h

def isNull : Value → Bool
  | .null => true
  | _ => false

def bool? : Value → Option Bool
  | .bool b => some b
  | _ => none

def number? : Value → Option Number
  | .number x => some x
  | _ => none

def string? : Value → Option String
  | .string s => some s
  | _ => none

def array? : Value → Option (List Value)
  | .array items => some items
  | _ => none

def object? : Value → Option (Entries Value)
  | .object entries => some entries
  | _ => none

def get? (v : Value) (key : String) : Option Value := v.object?.bind (·.get? key)

/-- The entry of an object under a name; what is missing is undefined. -/
def get (v : Value) (key : String) : Value := (v.get? key).getD .undefined

/-- The value of an integer, rounded to the nearest number. -/
def ofInt (n : Int) : Value := .number (.ofInt n)

mutual

/-- **Equality of values**: numbers by their place on the line, so *not a number* differs from itself; arrays position
by position; objects name by name, in whatever order. -/
def equals : Value → Value → Bool
  | .undefined, .undefined => true
  | .null, .null => true
  | .bool a, .bool b => a == b
  | .number a, .number b => a.equals b
  | .string a, .string b => a == b
  | .array as, .array bs => equalItems as bs
  | .object as, .object bs => as.length == bs.length && containedIn as bs
  | _, _ => false

/-- The same number of items, equal position by position. -/
def equalItems : List Value → List Value → Bool
  | [], [] => true
  | a :: as, b :: bs => a.equals b && equalItems as bs
  | _, _ => false

/-- Every entry of the first has an equal one under its name in the second. -/
def containedIn : List (String × Value) → List (String × Value) → Bool
  | [], _ => true
  | (k, a) :: as, bs => (match Entries.get? bs k with | some b => a.equals b | none => false) && containedIn as bs

end

/-- Whether a number is written without a point: nothing stands after its point, and it lies between the ends of the
64-bit signed range, as numbers.  The upper end is none, and is rounded up to the power of two behind it. -/
def writtenWhole (x : Number) : Bool :=
  x.isIntegral && (Number.ofInt Number.int64Min).atMost x && x.below (.ofInt Number.int64Max)

/-- A number in a document: cast to an integer if it is whole and in range, `null` if it is not finite. -/
def numberToJson (x : Number) : Json :=
  if writtenWhole x then .int x.toInt64 else if x.isFinite then .float x else .null

mutual

def toJson : Value → Json
  | .undefined => .null
  | .null => .null
  | .bool b => .bool b
  | .number x => numberToJson x
  | .string s => .string s
  | .array items => .array (itemsToJson items)
  | .object entries => .object (entriesToJson entries)

def itemsToJson : List Value → List Json
  | [] => []
  | v :: rest => v.toJson :: itemsToJson rest

/-- Undefined entries are left out. -/
def entriesToJson : List (String × Value) → List (String × Json)
  | [] => []
  | (key, v) :: rest => if v.isUndefined then entriesToJson rest else (key, v.toJson) :: entriesToJson rest

end

mutual

/-- The value of a document; a whole number becomes the nearest number. -/
def ofJson : Json → Value
  | .null => .null
  | .bool b => .bool b
  | .int n => .ofInt n
  | .float x => .number x
  | .string s => .string s
  | .array items => .array (itemsOfJson items)
  | .object entries => .object (entriesOfJson entries)

def itemsOfJson : List Json → List Value
  | [] => []
  | j :: rest => ofJson j :: itemsOfJson rest

def entriesOfJson : List (String × Json) → List (String × Value)
  | [] => []
  | (key, j) :: rest => (key, ofJson j) :: entriesOfJson rest

end

end Value
end Schemata
