import Schemata.Outcome.Basic
/-!
# Run — carrying an outcome out

Carrying out needs to know how often each counter has been drawn, and gives back the log and the new counts beside the
result.  `Outcome.start` asks for an outcome and stops where it is ready or pending; `Deferred.await` polls work to its
end.
-/
namespace Schemata

/-- How often each counter has been drawn. -/
abbrev Counters := Nat → Nat

def Counters.fresh : Counters := fun _ => 0

def Counters.advance (counters : Counters) (counter : Nat) : Counters :=
  fun i => if i = counter then counters i + 1 else counters i

/-- A result with what happened on the way to it. -/
structure Run (α : Type) where
  result : α
  log : List Event
  counters : Counters

namespace Run

variable {α β : Type}

def after (event : Event) (r : Run α) : Run α := { r with log := event :: r.log }

def map (f : α → β) (r : Run α) : Run β := ⟨f r.result, r.log, r.counters⟩

end Run

variable {α : Type}

/-- Polls work to its end. -/
def Deferred.await : Deferred α → Counters → Run α
  | .done a, counters => ⟨a, [], counters⟩
  | .record e rest, counters => (rest.await counters).after e
  | .draw c rest, counters => (rest (counters c)).await (counters.advance c)
  | .pause rest, counters => rest.await counters

/-- **How much one poll of the whole covers changes nothing by itself**: awaited alone, works polled by rounds and by pairs
do the same. -/
theorem Turns.await_byPair : ∀ (t : Turns α) (left : Nat) (again : Bool) (counters : Counters),
    (t.byPair left again).await counters = t.byRound.await counters
  | .done _, _, _, _ => rfl
  | .record e rest, left, again, counters => congrArg (Run.after e) (await_byPair rest left again counters)
  | .draw c rest, left, again, counters => await_byPair (rest (counters c)) left again (counters.advance c)
  | .polled true rest, left, _, counters => await_byPair rest (left - 1) false counters
  | .polled false rest, left, again, counters => by
    simp only [byPair, byRound]
    split
    · exact await_byPair rest left false counters
    · exact await_byPair rest left true counters
  | .round rest, left, again, counters => await_byPair rest left again counters

/-- Awaiting several works is polling them round by round, however many they are. -/
theorem Deferred.await_all (works : List (Deferred α)) (counters : Counters) :
    (Deferred.all works).await counters = (Turns.ofList works).byRound.await counters := by
  unfold Deferred.all
  split
  · rfl
  · exact Turns.await_byPair _ _ _ _

/-- Asks for an outcome, up to where it is ready or pending. -/
def Outcome.start : Outcome α → Counters → Run (Launch α)
  | .ready a, counters => ⟨.ready a, [], counters⟩
  | .pending work, counters => ⟨.pending work, [], counters⟩
  | .record e rest, counters => (rest.start counters).after e
  | .draw c rest, counters => (rest (counters c)).start (counters.advance c)

/-- Asks for an outcome and awaits it. -/
def Outcome.settle (o : Outcome α) (counters : Counters) : Run α := o.toDeferred.await counters

/-- **Settling is starting and then awaiting what is pending.** -/
theorem Outcome.settle_eq : ∀ (o : Outcome α) (counters : Counters),
    o.settle counters =
      match (o.start counters).result with
      | .ready a => ⟨a, (o.start counters).log, (o.start counters).counters⟩
      | .pending work =>
        let rest := work.await (o.start counters).counters
        ⟨rest.result, (o.start counters).log ++ rest.log, rest.counters⟩
  | .ready _, _ => rfl
  | .pending _, _ => rfl
  | .record e rest, counters => by
    have ih := Outcome.settle_eq rest counters
    simp only [Outcome.settle, Outcome.toDeferred, Outcome.start, Deferred.await, Run.after] at ih ⊢
    rw [ih]
    cases (rest.start counters).result <;> rfl
  | .draw c rest, counters => Outcome.settle_eq (rest (counters c)) (counters.advance c)

end Schemata
