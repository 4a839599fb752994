import Schemata.Pattern.Ranges
/-!
# Stretch — tables that give every code point a value

Such a table is written as words: each names a value in letters and counts the code points in a row that have it, so
`Zs1 Po3` says that one space is followed by three marks.  `layOut` puts the stretches at their places, `valueAt` looks
a code point up and `rangesOf` collects the code points of some values.
-/
namespace Schemata

/-- Code points next to each other that have one value. -/
structure Stretch where
  first : Nat
  last : Nat
  value : String
  deriving Inhabited

namespace Stretch

/-- The name and the count that a word writes. -/
def readWord (word : String) : String × Nat :=
  let cs := word.toList
  (String.ofList (cs.takeWhile Char.isAlpha),
    (cs.dropWhile Char.isAlpha).foldl (fun n c => 10 * n + (c.toNat - '0'.toNat)) 0)

/-- Puts stretches one after the other, from a code point on. -/
def layOut (first : Nat) : List (String × Nat) → List Stretch
  | [] => []
  | (value, count) :: rest => ⟨first, first + count - 1, value⟩ :: layOut (first + count) rest

/-- The stretches of a table that is written on some lines. -/
def ofLines (lines : List String) : Array Stretch :=
  (layOut 0 ((lines.flatMap fun line => line.splitOn " ").map readWord)).toArray

/-- The value that a table gives to a code point. -/
def valueAt (table : Array Stretch) (n : Nat) : Option String :=
  (table.binSearch ⟨n, n, ""⟩ fun r s => r.last < s.first).map (·.value)

/-- The code points whose value satisfies a test, as ascending ranges apart from each other. -/
def rangesOf (table : Array Stretch) (p : String → Bool) : List (Nat × Nat) :=
  Ranges.join ((table.toList.filter fun r => p r.value).map fun r => (r.first, r.last))

end Stretch
end Schemata
