import Schemata.Outcome.Deferred
/-!
# Turns — several pieces of work polled in turn

Pieces of work that are waited for together are polled in rounds: each unfinished piece once in a round, up to its next
pause, in order.  `Turns` is what such rounds do, with a mark for every poll that says whether the piece is finished, and
a mark for the end of every round.

How much of that is done in one poll of the whole depends on how many pieces there are (`Deferred.all`).  A few are
polled for a round (`Turns.byRound`).  Many are polled until two in a row are found unfinished (`Turns.byPair`), so that
other work waited for beside them gets its turn sooner.
-/
namespace Schemata

/-- What polling pieces of work in turn does, up to what they end in. -/
inductive Turns (α : Type) where
  | done (a : α)
  | record (event : Event) (rest : Turns α)
  | draw (counter : Nat) (rest : Nat → Turns α)
  | polled (finished : Bool) (rest : Turns α)
  | round (rest : Turns α)

namespace Turns

variable {α β γ : Type}

def map (f : α → β) : Turns α → Turns β
  | .done a => .done (f a)
  | .record e rest => .record e (rest.map f)
  | .draw c rest => .draw c fun n => (rest n).map f
  | .polled finished rest => .polled finished (rest.map f)
  | .round rest => .round (rest.map f)

/-- A single piece, polled in every round. -/
def alone : Deferred α → Turns α
  | .done a => .polled true (.done a)
  | .record e rest => .record e (alone rest)
  | .draw c rest => .draw c fun n => alone (rest n)
  | .pause rest => .polled false (.round (alone rest))

/-- The rest of a round after a piece that is found unfinished: `left` says how to go on when the others are done, `both`
when they are not. -/
def afterUnfinished (left : α → Turns γ) (both : Turns α → Turns γ) : Turns α → Turns γ
  | .done a => .round (left a)
  | .record e rest => .record e (afterUnfinished left both rest)
  | .draw c rest => .draw c fun n => afterUnfinished left both (rest n)
  | .polled finished rest => .polled finished (afterUnfinished left both rest)
  | .round rest => .round (both rest)

/-- A piece that is polled before some others in every round. -/
def before : Deferred α → Turns β → Turns (α × β)
  | .done a => fun t => .polled true (t.map (Prod.mk a))
  | .record e rest => fun t => .record e (before rest t)
  | .draw c rest => fun t => .draw c fun n => before (rest n) t
  | .pause rest => fun t =>
    .polled false (afterUnfinished (fun b => (alone rest).map fun a => (a, b)) (before rest) t)

/-- Any number of pieces; what they end in keeps their order. -/
def ofList : List (Deferred α) → Turns (List α)
  | [] => .done []
  | w :: rest => (before w (ofList rest)).map fun r => r.1 :: r.2

def byRound : Turns α → Deferred α
  | .done a => .done a
  | .record e rest => .record e rest.byRound
  | .draw c rest => .draw c fun n => (rest n).byRound
  | .polled _ rest => rest.byRound
  | .round rest => .pause rest.byRound

/-- One poll of the whole goes on until two pieces in a row are found unfinished, or the only one that is left.  `left`
pieces are unfinished, and `again` says that the last poll found one of them so. -/
def byPair (left : Nat) (again : Bool) : Turns α → Deferred α
  | .done a => .done a
  | .record e rest => .record e (rest.byPair left again)
  | .draw c rest => .draw c fun n => (rest n).byPair left again
  | .polled true rest => rest.byPair (left - 1) false
  | .polled false rest =>
    if again || left = 1 then .pause (rest.byPair left false) else rest.byPair left true
  | .round rest => rest.byPair left again

end Turns

/-- The most pieces of work that are polled for a whole round. -/
def Deferred.few : Nat := 30

/-- **Pieces of work waited for together**, polled in turn; what they end in keeps their order. -/
def Deferred.all {α : Type} (works : List (Deferred α)) : Deferred (List α) :=
  let turns := Turns.ofList works
  if works.length ≤ Deferred.few then turns.byRound else turns.byPair works.length false

end Schemata
