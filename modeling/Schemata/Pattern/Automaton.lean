import Std.Data.HashMap
import Schemata.Pattern.Form
/-!
# Automaton — the room that a pattern takes

A pattern is matched by two automata over bytes, one for each direction, and each may take ten mebibytes.  The automata
are not built here, they are weighed: every state takes 32 bytes, every exit of a branching state 4 more, and every exit
of a state that goes by the next byte 8 more.  `Growth` is what a part of a pattern adds to an automaton.

The states of a large set are shared: forward, states with the same exits are one; backward, states that read the same
range of bytes on the way to the same state are one.  What has been built is remembered on a shelf with a limited number
of places, so a state may be forgotten and built again.  The place follows from the number of the state led to, so
copies of one set may differ in size.
-/
namespace Schemata
namespace Automaton

/-- The way in which an automaton reads a text. -/
inductive Direction where
  | forward
  | backward
  deriving DecidableEq

/-- An automaton so far: its states, and the bytes that its exits take. -/
structure Size where
  states : Nat
  exits : Nat
  deriving DecidableEq

/-- The bytes that an automaton may take. -/
def capacity : Nat := 10 * 1024 * 1024

def Size.bytes (s : Size) : Nat := 32 * s.states + s.exits

/-- More states and more bytes of exits, if there is room for them. -/
def Size.add (states exits : Nat) (s : Size) : Option Size :=
  let s : Size := ⟨s.states + states, s.exits + exits⟩
  if s.bytes ≤ capacity then some s else none

/-- What a part of a pattern adds, and what its last state needs for the exit to what follows: a branching state needs
room for it, any other has it already. -/
structure Growth where
  add : Size → Option Size
  exit : Nat

/-- A branching state's room for one exit. -/
def branch : Nat := 4

def Growth.fixed (states exits : Nat) : Growth := ⟨Size.add states exits, 0⟩

/-- One part after the other, the first leading on to the second. -/
def Growth.andThen (g h : Growth) : Growth := ⟨fun s => do h.add (← (← g.add s).add 0 g.exit), h.exit⟩

/-- A part some times over, each leading on to the next. -/
def Growth.again (g : Growth) : Nat → Size → Option Size
  | 0, s => some s
  | n + 1, s => do g.again n (← g.add (← s.add 0 g.exit))

/-- A part any number of times over, no time being a state of its own. -/
def Growth.copies (g : Growth) : Nat → Growth
  | 0 => .fixed 1 0
  | n + 1 => ⟨fun s => do g.again n (← g.add s), g.exit⟩

/-! ## Sets -/

/-- States built so far, each in a place that follows from what it is. -/
structure Shelf (α : Type) where
  places : UInt64
  built : Std.HashMap UInt64 (α × Nat)

/-- The place of something that some numbers describe, by the Fowler–Noll–Vo hash. -/
def Shelf.place {α : Type} (shelf : Shelf α) (numbers : List Nat) : UInt64 :=
  numbers.foldl (fun h n => (h ^^^ n.toUInt64) * 1099511628211) 14695981039346656037 % shelf.places

def Shelf.empty (α : Type) (places : UInt64) : Shelf α := ⟨places, ∅⟩

/-- The state in a place, if it is described alike. -/
def Shelf.find? {α : Type} [BEq α] (shelf : Shelf α) (place : UInt64) (what : α) : Option Nat :=
  shelf.built[place]?.bind fun other => if other.1 == what then some other.2 else none

/-- The number of the state so described: the one in its place, or else a new one, which takes the place. -/
def Shelf.state {α : Type} [BEq α] (what : α) (numbers : List Nat) (exits : Nat) (s : Size) (shelf : Shelf α) :
    Option (Nat × Size × Shelf α) :=
  let place := shelf.place numbers
  match shelf.find? place what with
  | some number => some (number, s, shelf)
  | none => do return (s.states, ← s.add 1 exits, { shelf with built := shelf.built.insert place (what, s.states) })

/-- Sequences by their first range of bytes, neighbours with the same one together. -/
def byHead (sequences : List (List (Nat × Nat))) : List ((Nat × Nat) × List (List (Nat × Nat))) :=
  sequences.foldr (fun
    | [], groups => groups
    | head :: tail, (other, tails) :: groups =>
      if head = other then (other, tail :: tails) :: groups else (head, [tail]) :: (other, tails) :: groups
    | head :: tail, [] => [(head, [tail])]) []

/-- The state from which some sequences lead to a target: its exits go by the first byte to the states for what is left.
The sequences are no longer than `depth`. -/
def forwardState (target : Nat) : Nat → List (List (Nat × Nat)) → Size → Shelf (List (Nat × Nat × Nat)) →
    Option (Nat × Size × Shelf (List (Nat × Nat × Nat)))
  | 0, _, s, shelf => some (target, s, shelf)
  | depth + 1, sequences, s, shelf => do
    let (exits, s, shelf) ← (byHead sequences).foldlM (fun (exits, s, shelf) (head, tails) => do
      let (next, s, shelf) ←
        if tails = [[]] then some (target, s, shelf) else forwardState target depth tails s shelf
      return ((head.1, head.2, next) :: exits, s, shelf)) ([], s, shelf)
    let exits := exits.reverse
    Shelf.state exits (exits.flatMap fun e => [e.1, e.2.1, e.2.2]) (8 * exits.length) s shelf

/-- The states that lead backward over a sequence from a target, its last byte read first; the first one's number. -/
def backwardStates (s : Size) (shelf : Shelf (Nat × Nat × Nat)) (target : Nat) :
    List (Nat × Nat) → Option (Size × Shelf (Nat × Nat × Nat))
  | [] => some (s, shelf)
  | (lo, hi) :: rest => do
    let (next, s, shelf) ← Shelf.state (target, lo, hi) [target, lo, hi] 0 s shelf
    backwardStates s shelf next rest

/-- A set: in ASCII alone a state with an exit for each range, and else the states for its sequences of bytes. -/
def ofSet (d : Direction) (ranges : List (Nat × Nat)) : Growth :=
  if ranges.all fun r => r.2 < 0x80 then .fixed 2 (8 * ranges.length)
  else
    let sequences := ranges.flatMap fun r => Utf8.sequences r.1 r.2
    match d with
    | .forward => ⟨fun s => do
        let (_, s, _) ← forwardState s.states 4 sequences (← s.add 1 0) (.empty _ 10000)
        return s, 0⟩
    | .backward => ⟨fun s => do
        let target := s.states + 1
        let (s, _) ← sequences.foldlM (fun (s, shelf) sequence => do
          let (s, shelf) ← backwardStates s shelf target sequence
          return (← s.add 0 branch, shelf)) (← s.add 2 0, .empty _ 1000)
        return s, 0⟩

/-! ## Choices among texts -/

/-- Cuts texts that are tried in order at each that is used up: what comes after it is tried only then.  A text used up
where nothing else was tried before is not used up twice. -/
def stages (current : List (List Nat)) (tried closed : Bool) : List (List Nat) → List (List (List Nat))
  | [] => [current.reverse]
  | [] :: rest =>
    if !tried && closed then stages current tried closed rest
    else current.reverse :: stages [] tried true rest
  | w :: rest => stages (w :: current) true closed rest

/-- The size of a tree of texts: at each of its branchings a state for every stage that has texts, with an exit for
every byte if there are several, and a state that leads to the stages in turn.  No text is longer than `depth`. -/
def treeSize : Nat → List (List Nat) → Size
  | 0, _ => ⟨0, 0⟩
  | depth + 1, texts =>
    if texts.all (· = []) then ⟨0, 0⟩
    else
      let stages := stages [] false false texts
      let sizes := stages.map fun stage =>
        let bytes := (stage.filterMap List.head?).eraseDups
        let below := bytes.map fun b =>
          treeSize depth (stage.filterMap fun w => if w.head? = some b then some w.tail else none)
        let own : Size :=
          match bytes.length with
          | 0 => ⟨0, 0⟩
          | 1 => ⟨1, branch⟩
          | n => ⟨1, 8 * n + branch⟩
        below.foldl (fun s t => ⟨s.states + t.states, s.exits + t.exits⟩) own
      sizes.foldl (fun s t => ⟨s.states + t.states, s.exits + t.exits⟩) ⟨1, branch * (stages.length - 1)⟩

/-- A choice among texts, which are read byte by byte. -/
def ofTexts (d : Direction) (texts : List (List Char)) : Growth :=
  let words := texts.map fun cs => cs.flatMap fun c => Utf8.encode c.toNat
  let words := if d = .forward then words else words.map List.reverse
  let size := treeSize ((words.map List.length).foldl max 0 + 1) words
  .fixed (size.states + 1) size.exits

/-! ## Forms -/

def text? : Form → Option (List Char)
  | .literal cs => some cs
  | _ => none

def optional (g : Growth) : Growth := ⟨fun s => do (← g.add (← s.add 1 (2 * branch))).add 1 g.exit, 0⟩

/-- Any number of rounds, none included.  A body that takes up text needs one branching state, from which it comes back
to; any other is one or more rounds that may be left out. -/
def anyRounds (g : Growth) (takesText : Bool) : Growth :=
  if takesText then ⟨fun s => do (← g.add (← s.add 1 branch)).add 0 g.exit, branch⟩
  else ⟨fun s => do (← g.add s).add 3 (g.exit + 4 * branch), 0⟩

/-- At least some rounds: the last one leads to a branching state that goes back to it. -/
def rounds (g : Growth) (least : Nat) : Growth :=
  ⟨fun s => do (← (g.copies least).add s).add 1 (g.exit + branch), branch⟩

/-- Further rounds that may each be the last. -/
def furtherRounds (g : Growth) : Nat → Size → Option Size
  | 0, s => some s
  | n + 1, s => do furtherRounds g n (← (← g.add (← s.add 1 (2 * branch))).add 0 g.exit)

/-- From the fewest to the most rounds. -/
def roundsBetween (g : Growth) (least most : Nat) : Growth :=
  let first := g.copies least
  ⟨fun s => do furtherRounds g (most - least) (← (← first.add s).add 1 first.exit), 0⟩

/-- A choice: two alternatives, a branching state before and a state after them, and then further alternatives. -/
def among (g h : Growth) (more : List Growth) : Growth :=
  ⟨fun s => do
    let s ← ((g.andThen h).add s).bind (Size.add 2 (h.exit + 2 * branch))
    more.foldlM (fun s k => do (← k.add s).add 0 (k.exit + branch)) s, 0⟩

mutual
def ofForm (d : Direction) : Form → Growth
  | .empty => .fixed 1 0
  | .literal cs => .fixed (cs.map Char.utf8Size).sum 0
  | .set rs => ofSet d rs
  | .anchor _ => .fixed 1 0
  | .group _ f =>
    match d with
    | .forward => (Growth.fixed 1 0).andThen ((ofForm d f).andThen (.fixed 1 0))
    | .backward => ofForm d f
  | .repeated f least most _ =>
    let g := ofForm d f
    match least, most with
    | 0, some 1 => optional g
    | 0, none => anyRounds g (f.fewest.any (0 < ·))
    | n, none => rounds g n
    | n, some m => if n = m then g.copies n else roundsBetween g n m
  | .sequence fs =>
    match if d = .forward then ofForms d fs else (ofForms d fs).reverse with
    | [] => .fixed 1 0
    | g :: gs => gs.foldl Growth.andThen g
  | .choice fs =>
    match fs.mapM text?, ofForms d fs with
    | some texts, _ => ofTexts d texts
    | none, g :: h :: more => among g h more
    | none, _ => .fixed 1 0

def ofForms (d : Direction) : List Form → List Growth
  | [] => []
  | f :: fs => ofForm d f :: ofForms d fs
end

/-- The size of the automaton for a form, if there is room for it.  Unless the form is bound to the end of the text that
the automaton starts from, a loop over any bytes comes first; and the whole form is a group. -/
def size? (d : Direction) (f : Form) : Option Size :=
  let bound :=
    match d with
    | .forward => f.startsWith .textStart
    | .backward => f.endsWith .textEnd
  let start := if bound then Growth.fixed 1 0 else .fixed 3 (8 + 2 * branch)
  (start.andThen ((ofForm d (.group 0 f)).andThen (.fixed 1 0))).add ⟨0, 0⟩

/-- The number of texts from which on a choice among them is looked up instead of run by automata. -/
def manyTexts : Nat := 3000

/-- Whether a form needs no automata. -/
def isLookedUp : Form → Bool
  | .choice fs => manyTexts ≤ fs.length && (fs.mapM text?).isSome
  | _ => false

/-- Whether there is room for both automata of a form, or it needs none. -/
def fits (f : Form) : Bool := isLookedUp f || (size? .forward f).isSome && (size? .backward f).isSome

end Automaton
end Schemata
