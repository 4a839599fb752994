import Std.Data.HashSet.Lemmas
import Schemata.Pattern.CharSet
/-!
# Regex — regular expressions and their search

A search walks the text once.  It holds the expressions that what remains of the text may still have to match
(`Regex.next` takes one of them over a character), each once, and at every position starts the whole expression afresh;
it ends with success as soon as one of them needs nothing more.  The expressions held are parts of the first one put
together, so their number does not grow with the text.

An anchor reads the two characters around a position.  So `Regex.skippable` and `Regex.next` are given them, and a
repetition that may be skipped where it stands need not be counted there.
-/
namespace Schemata

/-- Where a position stands to words: at an edge of one or not, at its start, at its end, or on one side only with no
word before it or none after it. -/
inductive WordPlace where
  | edge
  | noEdge
  | start
  | finish
  | noneBefore
  | noneAfter
  deriving DecidableEq

/-- Whether a position stands so, given whether a word character is before it and whether one is after it. -/
def WordPlace.holds (before after : Bool) : WordPlace → Bool
  | .edge => before != after
  | .noEdge => before == after
  | .start => !before && after
  | .finish => before && !after
  | .noneBefore => !before
  | .noneAfter => !after

/-- A condition on a position.  A line ends at a newline, or else at a carriage return, a newline or both together;
words are those of all scripts, or else those of ASCII. -/
inductive Anchor where
  | textStart
  | textEnd
  | lineStart
  | lineEnd
  | anyLineStart
  | anyLineEnd
  | word (place : WordPlace)
  | asciiWord (place : WordPlace)
  deriving DecidableEq

/-- Whether an anchor holds between two characters, the text's ends having none beyond them.  No line starts or ends
between a carriage return and its newline. -/
def Anchor.holds (before after : Option Char) : Anchor → Bool
  | .textStart => before.isNone
  | .textEnd => after.isNone
  | .lineStart => before.isNone || before == some '\n'
  | .lineEnd => after.isNone || after == some '\n'
  | .anyLineStart => before.isNone || before == some '\n' || before == some '\r' && after != some '\n'
  | .anyLineEnd => after.isNone || after == some '\r' || after == some '\n' && before != some '\r'
  | .word place => place.holds (before.any Alphabet.isWord) (after.any Alphabet.isWord)
  | .asciiWord place => place.holds (before.any Alphabet.isAsciiWord) (after.any Alphabet.isAsciiWord)

/-- A regular expression; a repetition without an upper bound has none. -/
inductive Regex where
  | empty
  | one (s : CharSet)
  | anchor (a : Anchor)
  | seq (a b : Regex)
  | alt (a b : Regex)
  | repeated (a : Regex) (least : Nat) (most : Option Nat)
  deriving DecidableEq

namespace Regex

def char (c : Char) : Regex := .one (.single c)

def star (a : Regex) : Regex := .repeated a 0 none

def plus (a : Regex) : Regex := .repeated a 1 none

def opt (a : Regex) : Regex := .repeated a 0 (some 1)

def sequence : List Regex → Regex
  | [] => .empty
  | [a] => a
  | a :: rest => .seq a (sequence rest)

/-- Any of several; nothing to choose from is the empty expression. -/
def choice : List Regex → Regex
  | [] => .empty
  | [a] => a
  | a :: rest => .alt a (choice rest)

/-- Whether an expression matches the empty text at a position. -/
def skippable (before after : Option Char) : Regex → Bool
  | .empty => true
  | .one _ => false
  | .anchor a => a.holds before after
  | .seq a b => a.skippable before after && b.skippable before after
  | .alt a b => a.skippable before after || b.skippable before after
  | .repeated a least _ => least == 0 || a.skippable before after

/-- `a` and then `b`, where nothing may be left of `a`. -/
def followedBy (b : Regex) : Regex → Regex
  | .empty => b
  | a => .seq a b

/-- **What may remain to be matched after a character.**  If the body of a repetition may be skipped here, any number of
its rounds may, so none is owed afterwards. -/
def next (before : Option Char) (c : Char) : Regex → List Regex
  | .empty => []
  | .one s => if s.contains c then [.empty] else []
  | .anchor _ => []
  | .seq a b =>
    (a.next before c).map (followedBy b) ++ (if a.skippable before (some c) then b.next before c else [])
  | .alt a b => a.next before c ++ b.next before c
  | .repeated a least most =>
    if most = some 0 then []
    else
      let owed := if a.skippable before (some c) then 0 else least - 1
      (a.next before c).map (followedBy (.repeated a owed (most.map (· - 1))))

/-- A number that equal expressions share: their shape and counts, whatever their sets hold. -/
def fingerprint : Regex → UInt64
  | .empty => 1
  | .one _ => 2
  | .anchor _ => 3
  | .seq a b => mixHash (mixHash 4 a.fingerprint) b.fingerprint
  | .alt a b => mixHash (mixHash 5 a.fingerprint) b.fingerprint
  | .repeated a least most => mixHash (mixHash (hash least) (hash most)) a.fingerprint

instance : Hashable Regex := ⟨fingerprint⟩

/-- The expressions that are not among those seen, each once. -/
def distinctFrom (seen : Std.HashSet Regex) : List Regex → List Regex
  | [] => []
  | a :: as => if seen.contains a then distinctFrom seen as else a :: distinctFrom (seen.insert a) as

def distinct (as : List Regex) : List Regex := distinctFrom ∅ as

theorem mem_distinctFrom (a : Regex) : ∀ (as : List Regex) (seen : Std.HashSet Regex),
    a ∈ distinctFrom seen as ↔ a ∈ as ∧ seen.contains a = false
  | [], _ => by simp [distinctFrom]
  | b :: as, seen => by
    unfold distinctFrom
    split
    · rename_i hb
      rw [mem_distinctFrom a as seen, List.mem_cons]
      constructor
      · exact fun h => ⟨.inr h.1, h.2⟩
      · rintro ⟨rfl | h, hn⟩
        · rw [hb] at hn; cases hn
        · exact ⟨h, hn⟩
    · rename_i hb
      rw [List.mem_cons, mem_distinctFrom a as (seen.insert b), List.mem_cons, Std.HashSet.contains_insert]
      by_cases h : b = a
      · subst h; simp [hb]
      · simp [h, Ne.symm h]

theorem mem_distinct (a : Regex) (as : List Regex) : a ∈ distinct as ↔ a ∈ as := by
  unfold distinct
  rw [mem_distinctFrom]
  simp

/-- Walks the text with the expressions held, starting `r` afresh at every further position. -/
def searchFrom (r : Regex) : Option Char → List Regex → List Char → Bool
  | before, held, [] => held.any (skippable before none)
  | before, held, c :: rest =>
    held.any (skippable before (some c)) ||
      searchFrom r (some c) (distinct (held.flatMap (next before c) ++ [r])) rest

/-- **Whether an expression matches somewhere in a text.** -/
def search (r : Regex) (text : String) : Bool := r.searchFrom none [r] text.toList

end Regex
end Schemata
