import Schemata.Pattern.ClassName
import Schemata.Pattern.Mode
/-!
# Escape — what a backslash makes of the text after it

A backslash writes a character by its number or by a letter, names a class, marks a place, or lets a mark stand for
itself.  Each reader takes the text that is left and gives back what it read with what is left after it, or nothing when
the text is not a pattern.
-/
namespace Schemata

/-- What a backslash writes: a character, a named class or an anchor. -/
inductive Escape where
  | char (c : Char)
  | set (s : CharSet)
  | anchor (a : Anchor)

namespace Escape

def hexDigit? (c : Char) : Option Nat :=
  if c.isDigit then some (c.toNat - '0'.toNat)
  else if 'a' ≤ c ∧ c ≤ 'f' then some (c.toNat - 'a'.toNat + 10)
  else if 'A' ≤ c ∧ c ≤ 'F' then some (c.toNat - 'A'.toNat + 10)
  else none

/-- The character with a number in hexadecimal digits, if there is one. -/
def ofHex? (digits : List Char) : Option Char := do
  let n ← digits.foldlM (fun n c => (hexDigit? c).map (16 * n + ·)) 0
  if digits ≠ [] ∧ n.isValidChar then some (Char.ofNat n) else none

/-- A character by its number: a fixed count of hexadecimal digits, or any in braces. -/
def readHex (m : Mode) (count : Nat) (cs : List Char) : Option (Char × List Char) := do
  let (digits, rest) ←
    match m.skip cs with
    | '{' :: cs => m.readUpTo '}' (m.skip cs)
    | cs => m.readMany count cs
  return (← ofHex? digits, rest)

/-- A character by two digits.  Where classes are those of ASCII that is a byte, so none beyond ASCII can be meant. -/
def readByte (m : Mode) (cs : List Char) : Option (Char × List Char) := do
  let (c, rest) ← readHex m 2 cs
  if m.ascii ∧ 128 ≤ c.toNat ∧ (m.skip cs).head? ≠ some '{' then none else some (c, rest)

/-- A class by its name: one letter, or a text in braces. -/
def readNamed (m : Mode) (negated : Bool) (cs : List Char) : Option (Escape × List Char) := do
  let (named, rest) ←
    match m.skip cs with
    | '{' :: cs => (m.readUpTo '}' (m.skip cs)).map fun r => (ClassName.read? r.1, r.2)
    | c :: cs => some (ClassName.ofName? [c], cs)
    | [] => none
  if m.ascii then none
  else
    let s := m.folded (← named)
    return (.set (if negated then .complement s else s), rest)

def letterClass? (m : Mode) : Char → Option CharSet
  | 'd' => some (if m.ascii then .range '0' '9' else .digit)
  | 's' => some (if m.ascii then .asciiBlank else .blank)
  | 'w' => some (if m.ascii then .asciiWord else .word)
  | _ => none

def letter? (m : Mode) (c : Char) : Option CharSet :=
  if c.isUpper then (letterClass? m c.toLower).bind m.complement? else letterClass? m c

def place? (name : List Char) : Option WordPlace :=
  match String.ofList name with
  | "start" => some .start
  | "end" => some .finish
  | "start-half" => some .noneBefore
  | "end-half" => some .noneAfter
  | _ => none

/-- A place among words: one with a name in braces, or else an edge.  Braces that start with no letter hold a count. -/
def readPlace (m : Mode) (cs : List Char) : Option (Escape × List Char) :=
  let isNameChar (c : Char) : Bool := c.isAlpha || c == '-'
  match cs with
  | '{' :: inner =>
    match m.skip inner with
    | [] => none
    | c :: more =>
      if isNameChar c then
        match m.readWhile isNameChar (c :: more) with
        | (name, '}' :: rest) => (place? name).map fun place => (.anchor (m.word place), rest)
        | _ => none
      else some (.anchor (m.word .edge), cs)
  | cs => some (.anchor (m.word .edge), cs)

def control? : Char → Option Char
  | 'a' => some '\x07'
  | 'f' => some '\x0c'
  | 't' => some '\t'
  | 'n' => some '\n'
  | 'r' => some '\r'
  | 'v' => some '\x0b'
  | _ => none

def anchor? (m : Mode) : Char → Option Anchor
  | 'A' => some .textStart
  | 'z' => some .textEnd
  | 'B' => some (m.word .noEdge)
  | '<' => some (m.word .start)
  | '>' => some (m.word .finish)
  | _ => none

/-- A mark of ASCII that stands for itself after a backslash: any but letters, digits and angle brackets. -/
def isMark (c : Char) : Bool := c.toNat < 128 && !c.isAlphanum && c != '<' && c != '>'

def read (m : Mode) : List Char → Option (Escape × List Char)
  | [] => none
  | 'x' :: cs => (readByte m cs).map fun r => (.char r.1, r.2)
  | 'u' :: cs => (readHex m 4 cs).map fun r => (.char r.1, r.2)
  | 'U' :: cs => (readHex m 8 cs).map fun r => (.char r.1, r.2)
  | 'p' :: cs => readNamed m false cs
  | 'P' :: cs => readNamed m true cs
  | 'b' :: cs => readPlace m cs
  | c :: cs =>
    let read := ((control? c).map Escape.char).or
      (((letter? m c).map Escape.set).or ((anchor? m c).map Escape.anchor))
    (read.or (if isMark c then some (.char c) else none)).map fun e => (e, cs)

end Escape
end Schemata
