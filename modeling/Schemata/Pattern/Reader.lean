import Schemata.Pattern.Automaton
import Schemata.Pattern.Bracket
import Schemata.Pattern.Written
/-!
# Reader — reading a pattern

The text is read piece by piece into the innermost group that is open, the groups around it on a stack.  A change of
mode lasts to the end of the group it stands in, over its remaining alternatives too, and a repetition takes the thing
before it, so it needs one: a change of mode is none.

A text that reads well is still no pattern if it is nested too deep or if its automata would take too much room.
-/
namespace Schemata
namespace Reader

/-! ## Pieces -/

/-- A piece of a pattern: a single thing, a mark that opens, separates or closes, a repetition, or a change of mode. -/
inductive Piece where
  | thing (w : Written)
  | bar
  | openGroup (captures : Bool) (name : Option String) (flags : List (Flag × Bool))
  | setFlags (flags : List (Flag × Bool))
  | closeGroup
  | times (least : Nat) (most : Option Nat) (greedy : Bool)

/-- The greatest count that a repetition may name. -/
def greatestCount : Nat := UInt32.size - 1

/-- A decimal count, blanks around it allowed. -/
def readCount (m : Mode) (cs : List Char) : Option Nat × List Char :=
  let (digits, rest) := m.readWhile Char.isDigit (cs.dropWhile Alphabet.isBlank)
  (if digits = [] then none else some (digits.foldl (fun n c => 10 * n + (c.toNat - '0'.toNat)) 0),
    rest.dropWhile Alphabet.isBlank)

/-- Whether a question mark follows, which makes a repetition take as few rounds as it can, and what comes after. -/
def readReluctant : List Char → Bool × List Char
  | '?' :: rest => (true, rest)
  | rest => (false, rest)

/-- A repetition with the mark that may follow it.  A mode may turn the meaning of the mark around. -/
def repetition (m : Mode) (least : Nat) (most : Option Nat) (cs : List Char) : Piece × List Char :=
  let (reluctant, rest) := readReluctant cs
  (.times least most (reluctant == m.reluctant), rest)

/-- The counts of a repetition, after its opening brace, in order and within reach. -/
def readCounts (m : Mode) (cs : List Char) : Option (Nat × Option Nat × List Char) := do
  let (least, rest) := readCount m (m.skip cs)
  let least ← least
  let (most, rest) ←
    match rest with
    | ',' :: rest =>
      match m.skip rest with
      | '}' :: _ => some (none, m.skip rest)
      | cs =>
        let (most, rest) := readCount m cs
        most.map fun most => (some most, rest)
    | rest => some (some least, rest)
  match rest with
  | '}' :: rest =>
    if least ≤ greatestCount ∧ most.all (fun n => least ≤ n ∧ n ≤ greatestCount) then some (least, most, rest) else none
  | _ => none

/-- A character that a name of a group may start with. -/
def startsName (c : Char) : Bool := c == '_' || Property.alphabetic.contains c

/-- A character that may follow in a name of a group. -/
def continuesName (c : Char) : Bool :=
  startsName c || Category.isOneOf Category.numbers c || c == '.' || c == '[' || c == ']'

/-- A named group, after the bracket that opens its name. -/
def readGroupName (cs : List Char) : Option (Piece × List Char) :=
  match cs.takeWhile (· ≠ '>'), cs.dropWhile (· ≠ '>') with
  | first :: more, _ :: rest =>
    if startsName first && more.all continuesName then
      some (.openGroup true (some (String.ofList (first :: more))) [], rest)
    else none
  | _, _ => none

/-- The opening of a group, after its parenthesis.  Conditions on what stands before or after are no part of the
language. -/
def readGroup (m : Mode) (cs : List Char) : Option (Piece × List Char) :=
  match m.skip cs with
  | '?' :: 'P' :: '<' :: cs => readGroupName cs
  | '?' :: '<' :: cs => readGroupName cs
  | '?' :: cs =>
    let letters := cs.takeWhile fun c => c ≠ ':' ∧ c ≠ ')'
    match cs.dropWhile fun c => c ≠ ':' ∧ c ≠ ')' with
    | ':' :: rest => (Mode.readFlags letters).map fun flags => (.openGroup false none flags, rest)
    | _ :: rest => if letters = [] then none else (Mode.readFlags letters).map fun flags => (.setFlags flags, rest)
    | [] => none
  | cs => some (.openGroup true none [], cs)

def readPiece (m : Mode) : List Char → Option (Piece × List Char)
  | [] => none
  | '|' :: cs => some (.bar, cs)
  | ')' :: cs => some (.closeGroup, cs)
  | '(' :: cs => readGroup m cs
  | '*' :: cs => some (repetition m 0 none cs)
  | '+' :: cs => some (repetition m 1 none cs)
  | '?' :: cs => some (repetition m 0 (some 1) cs)
  | '{' :: cs => (readCounts m cs).map fun (least, most, rest) => repetition m least most (m.skip rest)
  | '[' :: cs => (Bracket.read m cs).map fun (s, depth, rest) => (.thing (.one s depth), rest)
  | '.' :: cs => m.dot?.map fun s => (.thing (.one s 0), cs)
  | '^' :: cs => some (.thing (.anchor m.caret), cs)
  | '$' :: cs => some (.thing (.anchor m.dollar), cs)
  | '\\' :: cs => (Escape.read m cs).map fun (e, rest) =>
    match e with
    | .char c => (.thing (.one (m.char c) 0), rest)
    | .set s => (.thing (.one s 0), rest)
    | .anchor a => (.thing (.anchor a), rest)
  | c :: cs => some (.thing (.one (m.char c) 0), cs)

/-! ## Groups -/

/-- A group being read: its number if it captures, the mode it has come to, its finished alternatives, and what stands
in the current one. -/
structure OpenGroup where
  number : Option Nat
  mode : Mode
  alternatives : List Written
  current : List Written

def OpenGroup.start (number : Option Nat) (mode : Mode) : OpenGroup := ⟨number, mode, [], []⟩

def OpenGroup.push (g : OpenGroup) (w : Written) : OpenGroup := { g with current := g.current ++ [w] }

/-- Ends the current alternative. -/
def OpenGroup.bar (g : OpenGroup) : OpenGroup :=
  { g with alternatives := g.alternatives ++ [.inSequence g.current], current := [] }

/-- Changes the mode, which stands as nothing. -/
def OpenGroup.setFlags (g : OpenGroup) (flags : List (Flag × Bool)) : OpenGroup :=
  { g.push .nothing with mode := flags.foldl Mode.switch g.mode }

/-- Repeats the last thing, if there is one. -/
def OpenGroup.times? (g : OpenGroup) (least : Nat) (most : Option Nat) (greedy : Bool) : Option OpenGroup :=
  match g.current.getLast? with
  | none | some .nothing => none
  | some w => some { g with current := g.current.dropLast ++ [.repeated w least most greedy] }

def OpenGroup.contents (g : OpenGroup) : Written := .inChoice g.bar.alternatives

/-- **Reads a text into the innermost group**, the groups around it on a stack; no two groups share a name.  Every round
reads a character, so `room` is enough if the text is no longer. -/
def readInto (room captures : Nat) (names : List String) (g : OpenGroup) (outer : List OpenGroup) (cs : List Char) :
    Option Written :=
  match room, g.mode.skip cs, outer with
  | _, [], [] => some g.contents
  | _, [], _ :: _ => none
  | 0, _, _ => none
  | room + 1, cs, outer => do
    match ← readPiece g.mode cs, outer with
    | (.thing w, rest), _ => readInto room captures names (g.push w) outer rest
    | (.bar, rest), _ => readInto room captures names g.bar outer rest
    | (.setFlags flags, rest), _ => readInto room captures names (g.setFlags flags) outer rest
    | (.times least most greedy, rest), _ =>
      readInto room captures names (← g.times? least most greedy) outer rest
    | (.openGroup captured name flags, rest), _ =>
      if name.any (names.contains ·) then none
      else
        let captures := if captured then captures + 1 else captures
        readInto room captures (name.toList ++ names)
          (.start (if captured then some captures else none) (flags.foldl Mode.switch g.mode)) (g :: outer) rest
    | (.closeGroup, _), [] => none
    | (.closeGroup, rest), around :: outer =>
      readInto room captures names (around.push (.group g.number g.contents)) outer rest

/-- The pattern that a text writes, as it is put together. -/
def readWritten? (source : String) : Option Written :=
  readInto source.length 0 [] (.start none .plain) [] source.toList

end Reader

/-- A written pattern with the expression that it writes. -/
structure Pattern where
  source : String
  regex : Regex
  deriving DecidableEq

namespace Pattern

/-- Reads a pattern, which may be nested only so deep and whose automata must fit. -/
def read? (source : String) : Option Pattern := do
  let w ← Reader.readWritten? source
  if w.depth ≤ Written.deepest ∧ Automaton.fits w.form then some ⟨source, w.regex⟩ else none

/-- Whether a pattern matches somewhere in a text. -/
def matchesIn (p : Pattern) (text : String) : Bool := p.regex.search text

end Pattern
end Schemata
