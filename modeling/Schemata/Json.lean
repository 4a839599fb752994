import Schemata.Entries
import Schemata.Number.Rounding
/-!
# Json — documents as a JSON library holds them

A JSON document keeps whole numbers and binary fractions apart, which a value does not: `Json.int` is a number written
without a point, `Json.float` one that is held in binary.
-/
namespace Schemata

/-- A JSON document; the names in an object keep their order. -/
inductive Json where
  | null
  | bool (b : Bool)
  | int (n : Int)
  | float (x : Number)
  | string (s : String)
  | array (items : List Json)
  | object (entries : List (String × Json))

end Schemata
