import Schemata.Pattern.Form
/-!
# Written — patterns as their text puts them together

The parts of a pattern as written, with the modes they stand in already worked in: what each single thing matches,
groups, repetitions, sequences and choices.  From these come how deep a pattern is nested (`Written.depth`), what it
matches (`Written.regex`) and the form in which it is weighed (`Written.form`).
-/
namespace Schemata

/-- A part of a written pattern.  A change of mode and an empty alternative stand as nothing; a set has the depth to
which its brackets are nested; a group has a number if it captures. -/
inductive Written where
  | nothing
  | one (s : CharSet) (depth : Nat)
  | anchor (a : Anchor)
  | group (number : Option Nat) (w : Written)
  | repeated (w : Written) (least : Nat) (most : Option Nat) (greedy : Bool)
  | sequence (ws : List Written)
  | choice (ws : List Written)

namespace Written

/-- The depth that a pattern may reach. -/
def deepest : Nat := 250

def inSequence : List Written → Written
  | [] => .nothing
  | [w] => w
  | ws => .sequence ws

/-- Any of several parts; one alone is no choice. -/
def inChoice : List Written → Written
  | [] => .nothing
  | [w] => w
  | ws => .choice ws

mutual
/-- How deep a part is nested: groups, repetitions, sequences and choices each add a level. -/
def depth : Written → Nat
  | .nothing => 0
  | .one _ depth => depth
  | .anchor _ => 0
  | .group _ w => w.depth + 1
  | .repeated w _ _ _ => w.depth + 1
  | .sequence ws => greatestDepth ws + 1
  | .choice ws => greatestDepth ws + 1

def greatestDepth : List Written → Nat
  | [] => 0
  | w :: ws => max w.depth (greatestDepth ws)
end

mutual
def regex : Written → Regex
  | .nothing => .empty
  | .one s _ => .one s
  | .anchor a => .anchor a
  | .group _ w => w.regex
  | .repeated w least most _ => .repeated w.regex least most
  | .sequence ws => .sequence (regexes ws)
  | .choice ws => .choice (regexes ws)

def regexes : List Written → List Regex
  | [] => []
  | w :: ws => w.regex :: regexes ws
end

mutual
def form : Written → Form
  | .nothing => .empty
  | .one s _ => .ofRanges s.ranges
  | .anchor a => .anchor a
  | .group none w => w.form
  | .group (some number) w => .group number w.form
  | .repeated w least most greedy => .repeating w.form least most greedy
  | .sequence ws => .inSequence (forms ws)
  | .choice ws => .inChoice (forms ws)

def forms : List Written → List Form
  | [] => []
  | w :: ws => w.form :: forms ws
end

end Written
end Schemata
