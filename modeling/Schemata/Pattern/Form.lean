import Schemata.Pattern.Regex
import Schemata.Pattern.Utf8
/-!
# Form — expressions brought to the form in which they are weighed

The size of a pattern is not that of its text.  First it is simplified: sequences and choices are made flat,
neighbouring characters run together, choices among single characters become sets, what all alternatives begin with is
written once, and repetitions that change nothing go.  The functions that build a form keep it simple; none changes what
is matched.
-/
namespace Schemata

/-- A simplified expression.  Groups are numbered, so no two of them are equal. -/
inductive Form where
  | empty
  | literal (cs : List Char)
  | set (ranges : List (Nat × Nat))
  | anchor (a : Anchor)
  | group (number : Nat) (f : Form)
  | repeated (f : Form) (least : Nat) (most : Option Nat) (greedy : Bool)
  | sequence (fs : List Form)
  | choice (fs : List Form)
  deriving BEq

namespace Form

/-! ## Lengths -/

mutual
/-- The fewest bytes that a form matches, if it can match at all. -/
def fewest : Form → Option Nat
  | .empty => some 0
  | .literal cs => some (cs.map Char.utf8Size).sum
  | .set rs => rs.head?.map fun r => Utf8.width r.1
  | .anchor _ => some 0
  | .group _ f => f.fewest
  | .repeated f least _ _ => f.fewest.map (· * least)
  | .sequence fs => fewestInSequence fs
  | .choice fs => fewestInChoice fs

def fewestInSequence : List Form → Option Nat
  | [] => some 0
  | f :: fs => do return (← f.fewest) + (← fewestInSequence fs)

def fewestInChoice : List Form → Option Nat
  | [] => none
  | [f] => f.fewest
  | f :: fs => do return min (← f.fewest) (← fewestInChoice fs)
end

mutual
/-- The most bytes that a form matches, if there is such a bound. -/
def most : Form → Option Nat
  | .empty => some 0
  | .literal cs => some (cs.map Char.utf8Size).sum
  | .set rs => rs.getLast?.map fun r => Utf8.width r.2
  | .anchor _ => some 0
  | .group _ f => f.most
  | .repeated f _ most _ => do return (← f.most) * (← most)
  | .sequence fs => mostInSequence fs
  | .choice fs => mostInChoice fs

def mostInSequence : List Form → Option Nat
  | [] => some 0
  | f :: fs => do return (← f.most) + (← mostInSequence fs)

def mostInChoice : List Form → Option Nat
  | [] => none
  | [f] => f.most
  | f :: fs => do return max (← f.most) (← mostInChoice fs)
end

/-! ## Ends -/

mutual
/-- Whether a form matches only where an anchor holds before it. -/
def startsWith (a : Anchor) : Form → Bool
  | .anchor b => a = b
  | .group _ f => f.startsWith a
  | .repeated f least _ _ => 0 < least && f.startsWith a
  | .sequence fs => sequenceStartsWith a fs
  | .choice fs => allStartWith a fs
  | _ => false

/-- A sequence does if one of its parts does that nothing but the empty text stands before. -/
def sequenceStartsWith (a : Anchor) : List Form → Bool
  | [] => false
  | f :: fs => f.startsWith a || f.most = some 0 && sequenceStartsWith a fs

def allStartWith (a : Anchor) : List Form → Bool
  | [] => true
  | f :: fs => f.startsWith a && allStartWith a fs
end

mutual
/-- Whether a form matches only where an anchor holds after it. -/
def endsWith (a : Anchor) : Form → Bool
  | .anchor b => a = b
  | .group _ f => f.endsWith a
  | .repeated f least _ _ => 0 < least && f.endsWith a
  | .sequence fs => sequenceEndsWith a fs
  | .choice fs => allEndWith a fs
  | _ => false

/-- A sequence does if one of its parts does that nothing but the empty text comes after. -/
def sequenceEndsWith (a : Anchor) : List Form → Bool
  | [] => false
  | f :: fs => sequenceEndsWith a fs || f.endsWith a && mostInSequence fs = some 0

def allEndWith (a : Anchor) : List Form → Bool
  | [] => true
  | f :: fs => f.endsWith a && allEndWith a fs
end

/-! ## Building forms -/

/-- A set of code points; one alone is a literal. -/
def ofRanges : List (Nat × Nat) → Form
  | [(lo, hi)] => if lo = hi then .literal [Char.ofNat lo] else .set [(lo, hi)]
  | rs => .set rs

/-- A repetition.  What matches nothing but the empty text matches it once or not at all; no rounds are the empty form,
and one round is the body. -/
def repeating (f : Form) (least : Nat) (most : Option Nat) (greedy : Bool) : Form :=
  let (least, most) := if f.most = some 0 then (min least 1, some (min (most.getD 1) 1)) else (least, most)
  if least = 0 ∧ most = some 0 then .empty
  else if least = 1 ∧ most = some 1 then f
  else .repeated f least most greedy

/-- Puts a form before others, running characters together. -/
def before (f : Form) (fs : List Form) : List Form :=
  match f, fs with
  | .literal cs, .literal ds :: rest => .literal (cs ++ ds) :: rest
  | f, fs => f :: fs

def parts : Form → List Form
  | .empty => []
  | .sequence fs => fs
  | f => [f]

def inSequence (fs : List Form) : Form :=
  match (fs.flatMap parts).foldr before [] with
  | [] => .empty
  | [f] => f
  | fs => .sequence fs

def alternatives : Form → List Form
  | .choice fs => fs
  | f => [f]

def char? : Form → Option Char
  | .literal [c] => some c
  | _ => none

def set? : Form → Option (List (Nat × Nat))
  | .set rs => some rs
  | _ => none

/-- Alternatives as one set, if all are characters or all are sets. -/
def asSet? (fs : List Form) : Option Form :=
  match fs.mapM char? with
  | some cs => some (ofRanges (Ranges.ofList (cs.map fun c => (c.toNat, c.toNat))))
  | none => (fs.mapM set?).map fun sets => ofRanges (sets.foldl Ranges.union [])

/-- A choice among alternatives that are no choices. -/
def amongFlat : List Form → Form
  | [] => .set []
  | [f] => f
  | fs => (asSet? fs).getD (.choice fs)

/-- What two sequences begin with alike. -/
def common : List Form → List Form → List Form
  | f :: fs, g :: gs => if f == g then f :: common fs gs else []
  | _, _ => []

def sequence? : Form → Option (List Form)
  | .sequence fs => some fs
  | _ => none

/-- What all alternatives begin with, if all are sequences, and what is left of each. -/
def factor? (fs : List Form) : Option (List Form × List (List Form)) :=
  match fs.mapM sequence? with
  | some (first :: rest) =>
    let shared := rest.foldl common first
    if shared.isEmpty then none else some (shared, (first :: rest).map (·.drop shared.length))
  | _ => none

def inChoice (fs : List Form) : Form :=
  match fs.flatMap alternatives with
  | [] => .set []
  | [f] => f
  | fs =>
    match asSet? fs, factor? fs with
    | some f, _ => f
    | none, some (shared, rest) =>
      inSequence (shared ++ [amongFlat ((rest.map inSequence).flatMap alternatives)])
    | none, none => .choice fs

end Form
end Schemata
