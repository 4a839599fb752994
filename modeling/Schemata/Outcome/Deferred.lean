/-!
# Deferred — work that is awaited

Deferred work is polled until it is done.  Between two polls it may record that a user's step was invoked or has
settled, and draw the next number of a counter; each `pause` is one poll that finds it unfinished.  Work is data, so
what it does is told apart from when it is run.
-/
namespace Schemata

/-- When a user's step answers: in the call itself, after a number of polls that find it unfinished, or after a number
that is another for each call, where a counter of its own tells the calls apart. -/
inductive Timing where
  | immediate
  | deferred (polls : Nat)
  | varying (counter : Nat) (polls : Nat → Nat)

/-- One step of a user, as it shows in a log: the tag it was given, and when it answers. -/
structure Step where
  tag : Option String
  timing : Timing

/-- What a log keeps of a step: that it was called, and, if its answer was deferred, that the answer came. -/
inductive Event where
  | invoked (step : Step)
  | settled (step : Step)

/-- Work that ends in an `α`. -/
inductive Deferred (α : Type) where
  | done (a : α)
  | record (event : Event) (rest : Deferred α)
  | draw (counter : Nat) (rest : Nat → Deferred α)
  | pause (rest : Deferred α)

namespace Deferred

variable {α β γ : Type}

/-- Goes on with what the work ends in. -/
def bind : Deferred α → (α → Deferred β) → Deferred β
  | .done a, f => f a
  | .record e rest, f => .record e (rest.bind f)
  | .draw c rest, f => .draw c fun n => (rest n).bind f
  | .pause rest, f => .pause (rest.bind f)

def map (f : α → β) (w : Deferred α) : Deferred β := w.bind fun a => .done (f a)

/-- The same work after some polls that find it unfinished. -/
def after : Nat → Deferred α → Deferred α
  | 0, w => w
  | polls + 1, w => .pause (after polls w)

@[simp] theorem bind_done (a : α) (f : α → Deferred β) : (Deferred.done a).bind f = f a := rfl

@[simp] theorem bind_record (e : Event) (w : Deferred α) (f : α → Deferred β) :
    (Deferred.record e w).bind f = .record e (w.bind f) := rfl

@[simp] theorem bind_draw (c : Nat) (k : Nat → Deferred α) (f : α → Deferred β) :
    (Deferred.draw c k).bind f = .draw c fun n => (k n).bind f := rfl

@[simp] theorem bind_pause (w : Deferred α) (f : α → Deferred β) :
    (Deferred.pause w).bind f = .pause (w.bind f) := rfl

theorem bind_pure : ∀ w : Deferred α, w.bind .done = w
  | .done _ => rfl
  | .record e rest => by rw [bind_record, bind_pure rest]
  | .draw c rest => by rw [bind_draw]; congr; funext n; exact bind_pure (rest n)
  | .pause rest => by rw [bind_pause, bind_pure rest]

theorem bind_assoc (f : α → Deferred β) (g : β → Deferred γ) :
    ∀ w : Deferred α, (w.bind f).bind g = w.bind fun a => (f a).bind g
  | .done _ => rfl
  | .record e rest => by simp only [bind_record, bind_assoc f g rest]
  | .draw c rest => by simp only [bind_draw]; congr; funext n; exact bind_assoc f g (rest n)
  | .pause rest => by simp only [bind_pause, bind_assoc f g rest]

@[simp] theorem map_done (f : α → β) (a : α) : (Deferred.done a).map f = .done (f a) := rfl

theorem map_id (w : Deferred α) : w.map id = w := bind_pure w

theorem map_map (f : α → β) (g : β → γ) (w : Deferred α) : (w.map f).map g = w.map fun a => g (f a) :=
  bind_assoc _ _ w

theorem map_bind (f : α → Deferred β) (g : β → γ) (w : Deferred α) : (w.bind f).map g = w.bind fun a => (f a).map g :=
  bind_assoc _ _ w

theorem bind_map (f : α → β) (g : β → Deferred γ) (w : Deferred α) : (w.map f).bind g = w.bind fun a => g (f a) :=
  bind_assoc _ _ w

end Deferred
end Schemata
