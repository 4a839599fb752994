import Schemata.Pattern.Age
import Schemata.Pattern.Division
/-!
# ClassName — the sets that names stand for

A class is named by a property, by a category or by a script, or by a property and the value that it has to have.  Names
are read loosely: case, blanks, hyphens and low lines make no difference, nor does `is` in front.
-/
namespace Schemata
namespace ClassName

/-- A name as it is looked up: in small letters alone.  `isc` has a meaning of its own, so its `is` stays. -/
def plain (name : List Char) : String :=
  let letters (cs : List Char) : List Char :=
    (cs.filter fun c => c.toNat < 128 && c != ' ' && c != '_' && c != '-').map Char.toLower
  match name with
  | i :: s :: rest =>
    if i.toLower = 'i' ∧ s.toLower = 's' then
      if letters rest = ['c'] then "isc" else String.ofList (letters rest)
    else String.ofList (letters name)
  | _ => String.ofList (letters name)

def lookUp (table : List (List String × CharSet)) (name : String) : Option CharSet :=
  (table.find? fun row => row.1.contains name).map (·.2)

/-- A set by its category; three names cover the categories of many characters at once. -/
def ofCategory? (name : String) : Option CharSet :=
  match name with
  | "any" => some .any
  | "ascii" => some .ascii
  | "assigned" => some (.complement (.categories [.cn]))
  | _ => (Category.names.lookup name).map .categories

def ofScript? (name : String) : Option CharSet :=
  (Script.names.lookup name).map fun code => .listed (Script.ranges code)

/-- The set that a name stands for alone. -/
def ofName? (name : List Char) : Option CharSet :=
  let name := plain name
  (lookUp Property.named name).or ((ofCategory? name).or (ofScript? name))

/-- The set of the characters for which a property has a value. -/
def ofValue? (property value : List Char) : Option CharSet :=
  let value := plain value
  match plain property with
  | "gc" | "generalcategory" => ofCategory? value
  | "sc" | "script" => ofScript? value
  | "scx" | "scriptextensions" => (Script.names.lookup value).map fun code => .listed (Script.extendedRanges code)
  | "age" => (Age.ranges? value).map .listed
  | "gcb" | "graphemeclusterbreak" => lookUp Division.inClusters value
  | "wb" | "wordbreak" => lookUp Division.inWords value
  | "sb" | "sentencebreak" => lookUp Division.inSentences value
  | _ => none

/-- The texts before and after the first place where a mark stands. -/
def splitAt? (mark : List Char) : List Char → Option (List Char × List Char)
  | [] => none
  | c :: cs =>
    if mark.isPrefixOf (c :: cs) then some ([], (c :: cs).drop mark.length)
    else (splitAt? mark cs).map fun r => (c :: r.1, r.2)

/-- The set that a text in braces stands for: a name, or a property and its value with `!=`, `:` or `=` between them.
The marks mean the same. -/
def read? (text : List Char) : Option CharSet :=
  match (splitAt? ['!', '='] text).or ((splitAt? [':'] text).or (splitAt? ['='] text)) with
  | some (property, value) => ofValue? property value
  | none => ofName? text

end ClassName
end Schemata
