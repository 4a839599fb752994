import Schemata.Pattern.Escape
/-!
# Bracket — classes in brackets

A class in brackets is a union of characters, ranges, named classes and further brackets; two or three such unions may
be joined by `&&`, `--` or `~~`, from left to right.  With what a class holds goes the depth of its brackets, of its
joins, and of its unions of several items.
-/
namespace Schemata
namespace Bracket

/-- The items of a union read so far: what they hold, how many they are, and the depth of the deepest one. -/
structure Items where
  set : CharSet
  count : Nat
  depth : Nat

def Items.none : Items := ⟨.none, 0, 0⟩

def Items.add (items : Items) (s : CharSet) (depth : Nat) : Items :=
  ⟨.union items.set s, items.count + 1, max items.depth depth⟩

/-- The depth of the union: several items make a level. -/
def Items.level (items : Items) : Nat := if items.count < 2 then items.depth else items.depth + 1

inductive Join where
  | inter
  | diff
  | symmDiff

def Join.apply : Join → CharSet → CharSet → CharSet
  | .inter => .inter
  | .diff => .diff
  | .symmDiff => .symmDiff

/-- What stands before a join: the left side with its depth, and the join. -/
structure Pending where
  left : CharSet
  depth : Nat
  join : Join

/-- Joins a union to what stands before it, each side without regard to case if the mode says so. -/
def finish (m : Mode) (pending : Option Pending) (items : Items) : CharSet × Nat :=
  match pending with
  | Option.none => (items.set, items.level)
  | some p => (p.join.apply (m.folded p.left) (m.folded items.set), max p.depth items.level + 1)

def named? (name : String) : Option CharSet :=
  match name with
  | "alnum" => some (.ofRanges [('0', '9'), ('A', 'Z'), ('a', 'z')])
  | "alpha" => some (.ofRanges [('A', 'Z'), ('a', 'z')])
  | "ascii" => some .ascii
  | "blank" => some (.ofRanges [('\t', '\t'), (' ', ' ')])
  | "cntrl" => some (.ofRanges [('\x00', '\x1f'), ('\x7f', '\x7f')])
  | "digit" => some (.range '0' '9')
  | "graph" => some (.range '!' '~')
  | "lower" => some (.range 'a' 'z')
  | "print" => some (.range ' ' '~')
  | "punct" => some (.ofRanges [('!', '/'), (':', '@'), ('[', '\x60'), ('\x7b', '~')])
  | "space" => some .asciiBlank
  | "upper" => some (.range 'A' 'Z')
  | "word" => some .asciiWord
  | "xdigit" => some (.ofRanges [('0', '9'), ('A', 'F'), ('a', 'f')])
  | _ => none

/-- A name between colons, after the bracket: whether it is negated, and its class.  Any other text is no name, and the
bracket opens a class of its own. -/
def readName (cs : List Char) : Option (Bool × CharSet × List Char) :=
  match cs with
  | ':' :: cs =>
    let (negated, cs) := match cs with
      | '^' :: rest => (true, rest)
      | _ => (false, cs)
    match cs.dropWhile (· ≠ ':') with
    | ':' :: ']' :: rest => (named? (String.ofList (cs.takeWhile (· ≠ ':')))).map fun s => (negated, s, rest)
    | _ => none
  | _ => none

/-- One item: an escape or a character.  Where classes are those of ASCII, so are the characters. -/
def readItem (m : Mode) (cs : List Char) : Option (Escape × List Char) := do
  let (item, rest) ←
    match cs with
    | [] => none
    | '\\' :: cs => Escape.read m cs
    | c :: cs => some (.char c, cs)
  match item with
  | .char c => if m.ascii ∧ 128 ≤ c.toNat then none else some (item, rest)
  | item => some (item, rest)

/-- The set that an item is; an anchor is none. -/
def itemSet? : Escape → Option CharSet
  | .char c => some (.single c)
  | .set s => some s
  | .anchor _ => none

/-- The next character that counts after a hyphen: blanks are passed over where the mode lets them stand, and of a
comment the mark. -/
def peek (m : Mode) (cs : List Char) : Option Char :=
  if m.spaced then
    match cs.dropWhile Alphabet.isBlank with
    | '#' :: rest => (rest.dropWhile Alphabet.isBlank).head?
    | cs => cs.head?
  else cs.head?

/-- An item, or a range between two characters.  A hyphen before the closing bracket or before another hyphen does not
make a range. -/
def readRange (m : Mode) (cs : List Char) : Option (CharSet × List Char) := do
  let (first, rest) ← readItem m cs
  match m.skip rest with
  | [] => none
  | '-' :: more =>
    if peek m more = some ']' ∨ peek m more = some '-' then some (← itemSet? first, '-' :: more)
    else
      let (last, rest) ← readItem m (m.skip more)
      match first, last with
      | .char lo, .char hi => if lo ≤ hi then some (.range lo hi, rest) else none
      | _, _ => none
  | rest => some (← itemSet? first, rest)

/-- The hyphens that stand for themselves at the start of a class. -/
def readHyphens (m : Mode) (items : Items) : List Char → Items × List Char
  | '-' :: cs => readHyphens m (items.add (.single '-') 0) (m.skip cs)
  | cs => (items, cs)
termination_by cs => cs.length
decreasing_by exact Nat.lt_succ_of_le (Mode.length_skip_le m cs)

/-- The start of a class, after its bracket: whether it is negated, and the hyphens or the closing bracket that stand
for themselves there. -/
def readStart (m : Mode) (cs : List Char) : Bool × Items × List Char :=
  let (negated, cs) := match m.skip cs with
    | '^' :: rest => (true, m.skip rest)
    | cs => (false, cs)
  match cs with
  | ']' :: rest => (negated, Items.none.add (.single ']') 0, rest)
  | cs => (negated, readHyphens m .none cs)

def close (m : Mode) (negated : Bool) (s : CharSet) : Option CharSet :=
  if negated then m.complement? (m.folded s) else some (m.folded s)

/-- The rest of a class, up to and with its closing bracket, with its depth.  Every round reads a character, so `room`
is enough if the text is no longer. -/
def readRest (m : Mode) (room : Nat) (negated : Bool) (pending : Option Pending) (items : Items) (cs : List Char) :
    Option (CharSet × Nat × List Char) :=
  match room with
  | 0 => none
  | room + 1 =>
    let joined (join : Join) (rest : List Char) :=
      let (left, depth) := finish m pending items
      readRest m room negated (some ⟨left, depth, join⟩) .none rest
    match m.skip cs with
    | [] => none
    | ']' :: rest =>
      let (s, depth) := finish m pending items
      (close m negated s).map fun s => (s, depth + 1, rest)
    | '&' :: '&' :: rest => joined .inter rest
    | '-' :: '-' :: rest => joined .diff rest
    | '~' :: '~' :: rest => joined .symmDiff rest
    | '[' :: inner =>
      match readName inner with
      | some (innerNegated, s, rest) => do
        readRest m room negated pending (items.add (← close m innerNegated s) 0) rest
      | none => do
        let (innerNegated, start, rest) := readStart m inner
        let (s, depth, rest) ← readRest m room innerNegated none start rest
        readRest m room negated pending (items.add s depth) rest
    | cs => do
      let (s, rest) ← readRange m cs
      readRest m room negated pending (items.add s 0) rest

/-- A class, after its opening bracket, with its depth. -/
def read (m : Mode) (cs : List Char) : Option (CharSet × Nat × List Char) :=
  let (negated, start, rest) := readStart m cs
  readRest m (cs.length + 1) negated none start rest

end Bracket
end Schemata
