import Schemata.Pattern.CharSet
import Schemata.Pattern.Regex
/-!
# Mode — how a pattern is read

Flags in a pattern change how the rest of a group is read: whether case, lines and newlines matter, whether repetitions
are greedy, whether blanks and comments may stand between the parts, and whether classes are those of Unicode or of
ASCII.
-/
namespace Schemata

structure Mode where
  ignoreCase : Bool
  manyLines : Bool
  dotMatchesNewline : Bool
  reluctant : Bool
  anyLineEnd : Bool
  spaced : Bool
  ascii : Bool
  deriving DecidableEq

inductive Flag where
  | ignoreCase
  | manyLines
  | dotMatchesNewline
  | reluctant
  | anyLineEnd
  | spaced
  | unicode
  deriving DecidableEq

def Flag.ofLetter? : Char → Option Flag
  | 'i' => some .ignoreCase
  | 'm' => some .manyLines
  | 's' => some .dotMatchesNewline
  | 'U' => some .reluctant
  | 'R' => some .anyLineEnd
  | 'x' => some .spaced
  | 'u' => some .unicode
  | _ => none

namespace Mode

def plain : Mode := ⟨false, false, false, false, false, false, false⟩

def switch (m : Mode) : Flag × Bool → Mode
  | (.ignoreCase, on) => { m with ignoreCase := on }
  | (.manyLines, on) => { m with manyLines := on }
  | (.dotMatchesNewline, on) => { m with dotMatchesNewline := on }
  | (.reluctant, on) => { m with reluctant := on }
  | (.anyLineEnd, on) => { m with anyLineEnd := on }
  | (.spaced, on) => { m with spaced := on }
  | (.unicode, on) => { m with ascii := !on }

/-! ## What a mode makes of single things -/

/-- A set, without regard to case if the mode says so; in ASCII no letter differs in case from one outside. -/
def folded (m : Mode) (s : CharSet) : CharSet :=
  if !m.ignoreCase then s else if m.ascii then .inter (.folded s) .ascii else .folded s

/-- A character that stands for itself.  Outside ASCII, ASCII knows no case. -/
def char (m : Mode) (c : Char) : CharSet := if m.ascii && 128 ≤ c.toNat then .single c else m.folded (.single c)

/-- All but a set.  In ASCII that could match parts of a character, which is not allowed. -/
def complement? (m : Mode) (s : CharSet) : Option CharSet := if m.ascii then none else some (.complement s)

/-- A point: any character, but for the ends of lines unless the mode lets it match them. -/
def dot? (m : Mode) : Option CharSet :=
  m.complement? (if m.dotMatchesNewline then .none
    else if m.anyLineEnd then .ofRanges [('\n', '\n'), ('\r', '\r')] else .single '\n')

/-- The start of a line or of the text. -/
def caret (m : Mode) : Anchor :=
  if m.manyLines then (if m.anyLineEnd then .anyLineStart else .lineStart) else .textStart

/-- The end of a line or of the text. -/
def dollar (m : Mode) : Anchor :=
  if m.manyLines then (if m.anyLineEnd then .anyLineEnd else .lineEnd) else .textEnd

/-- A place among words. -/
def word (m : Mode) (place : WordPlace) : Anchor := if m.ascii then .asciiWord place else .word place

/-! ## Blanks and comments -/

/-- Leaves out blanks and comments, which run from a number sign to the end of the line. -/
def skipFrom (inComment : Bool) : List Char → List Char
  | [] => []
  | c :: cs =>
    if inComment then skipFrom (c != '\n') cs
    else if Alphabet.isBlank c then skipFrom false cs
    else if c = '#' then skipFrom true cs
    else c :: cs

/-- Leaves out what the mode lets stand between parts. -/
def skip (m : Mode) (cs : List Char) : List Char := if m.spaced then skipFrom false cs else cs

theorem length_skipFrom_le : ∀ (cs : List Char) (inComment : Bool), (skipFrom inComment cs).length ≤ cs.length
  | [], _ => Nat.le_refl _
  | c :: cs, inComment => by
    unfold skipFrom
    split
    · exact Nat.le_succ_of_le (length_skipFrom_le cs _)
    · split
      · exact Nat.le_succ_of_le (length_skipFrom_le cs _)
      · split
        · exact Nat.le_succ_of_le (length_skipFrom_le cs _)
        · exact Nat.le_refl _

theorem length_skip_le (m : Mode) (cs : List Char) : (m.skip cs).length ≤ cs.length := by
  unfold skip
  split
  · exact length_skipFrom_le cs false
  · exact Nat.le_refl _

/-- The characters up to one that ends them, which is left out. -/
def readUpTo (m : Mode) (stop : Char) : List Char → Option (List Char × List Char)
  | [] => none
  | c :: cs => if c = stop then some ([], cs) else (m.readUpTo stop (m.skip cs)).map fun r => (c :: r.1, r.2)
termination_by cs => cs.length
decreasing_by exact Nat.lt_succ_of_le (length_skip_le m cs)

def readWhile (m : Mode) (p : Char → Bool) : List Char → List Char × List Char
  | [] => ([], [])
  | c :: cs =>
    if p c then
      let r := m.readWhile p (m.skip cs)
      (c :: r.1, r.2)
    else ([], c :: cs)
termination_by cs => cs.length
decreasing_by exact Nat.lt_succ_of_le (length_skip_le m cs)

def readMany (m : Mode) : Nat → List Char → Option (List Char × List Char)
  | 0, cs => some ([], cs)
  | _ + 1, [] => none
  | n + 1, c :: cs => (m.readMany n (m.skip cs)).map fun r => (c :: r.1, r.2)

/-! ## Flags -/

/-- The letters of a change of mode: flags to set and, after a hyphen, flags to clear, none named twice. -/
def readFlags (letters : List Char) : Option (List (Flag × Bool)) := do
  let on ← (letters.takeWhile (· ≠ '-')).mapM Flag.ofLetter?
  let off ← ((letters.dropWhile (· ≠ '-')).drop 1).mapM Flag.ofLetter?
  if (on ++ off).Nodup ∧ ('-' ∈ letters → off ≠ []) then some (on.map (·, true) ++ off.map (·, false)) else none

end Mode
end Schemata
