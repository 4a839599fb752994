import Schemata.Pattern.Alphabet
import Schemata.Pattern.Category
import Schemata.Pattern.Folding
/-!
# CharSet — sets of characters as patterns write them

A set is kept as it was written: ranges, named classes, and what joins them.  `contains` answers for one character;
`ranges` lists the whole set.  Reading a set without regard to case (`CharSet.folded`) comes before any complement is
taken, so the complement of `k` without regard to case leaves out `K` and the Kelvin sign too.
-/
namespace Schemata

inductive CharSet where
  | none
  | range (lo hi : Char)
  | listed (ranges : List (Nat × Nat))
  | digit
  | blank
  | word
  | categories (cs : List Category)
  | union (a b : CharSet)
  | inter (a b : CharSet)
  | complement (a : CharSet)
  | folded (a : CharSet)
  deriving DecidableEq

namespace CharSet

/-- Membership; a folded set holds whatever differs in case only from one of its characters. -/
def contains : CharSet → Char → Bool
  | .none, _ => false
  | .range lo hi, c => lo ≤ c && c ≤ hi
  | .listed rs, c => Ranges.has c.toNat rs
  | .digit, c => Alphabet.isDigit c
  | .blank, c => Alphabet.isBlank c
  | .word, c => Alphabet.isWord c
  | .categories cs, c => Category.isOneOf cs c
  | .union a b, c => a.contains c || b.contains c
  | .inter a b, c => a.contains c && b.contains c
  | .complement a, c => !a.contains c
  | .folded a, c => (Folding.alike c.toNat).any fun n => a.contains (Char.ofNat n)

/-- The set as ranges of code points in normal form. -/
def ranges : CharSet → List (Nat × Nat)
  | .none => []
  | .range lo hi => if lo ≤ hi then [(lo.toNat, hi.toNat)] else []
  | .listed rs => rs
  | .digit => Alphabet.digitRanges
  | .blank => Alphabet.blankRanges
  | .word => Alphabet.wordRanges
  | .categories cs => Category.ranges cs
  | .union a b => Ranges.union a.ranges b.ranges
  | .inter a b => Ranges.inter a.ranges b.ranges
  | .complement a => Ranges.complement a.ranges
  | .folded a => Folding.close a.ranges

def any : CharSet := .complement .none

def single (c : Char) : CharSet := .range c c

def diff (a b : CharSet) : CharSet := .inter a (.complement b)

def symmDiff (a b : CharSet) : CharSet := .union (a.diff b) (b.diff a)

def ofRanges (ranges : List (Char × Char)) : CharSet :=
  ranges.foldr (fun r s => .union (.range r.1 r.2) s) .none

def ascii : CharSet := .range '\x00' '\x7f'

def asciiWord : CharSet := .ofRanges [('0', '9'), ('A', 'Z'), ('_', '_'), ('a', 'z')]

def asciiBlank : CharSet := .ofRanges [('\t', '\r'), (' ', ' ')]

end CharSet
end Schemata
