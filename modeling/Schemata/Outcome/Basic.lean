import Schemata.Outcome.Turns
/-!
# Outcome — an answer that is there, or work to be awaited

Asking for an outcome already does something: steps are invoked, counters are drawn.  After that the outcome is `ready`
with an answer or `pending` with work.  So an outcome is a list of effects that ends in one of the two, and
`Outcome.bind` goes on at once with an answer that is there and otherwise puts off everything that follows.

Outcomes form a lawful monad (`bind_assoc` and its neighbours).  `Outcome.launch` asks for an outcome and looks at where
that ends; `Outcome.join` asks for several outcomes in order, every one of them, and is pending when one of them is.
-/
namespace Schemata

/-- Where asking for an answer ends. -/
inductive Launch (α : Type) where
  | ready (a : α)
  | pending (work : Deferred α)

/-- What asking for an answer does, and what comes of it. -/
inductive Outcome (α : Type) where
  | ready (a : α)
  | pending (work : Deferred α)
  | record (event : Event) (rest : Outcome α)
  | draw (counter : Nat) (rest : Nat → Outcome α)

namespace Outcome

variable {α β γ : Type}

/-- The outcome as work: what was there at once is done, what was pending goes on. -/
def toDeferred : Outcome α → Deferred α
  | .ready a => .done a
  | .pending work => work
  | .record e rest => .record e rest.toDeferred
  | .draw c rest => .draw c fun n => (rest n).toDeferred

/-- **Goes on with the answer**: at once if it is there, after the awaited work if it is not. -/
def bind : Outcome α → (α → Outcome β) → Outcome β
  | .ready a, f => f a
  | .pending work, f => .pending (work.bind fun a => (f a).toDeferred)
  | .record e rest, f => .record e (rest.bind f)
  | .draw c rest, f => .draw c fun n => (rest n).bind f

def map (f : α → β) (o : Outcome α) : Outcome β := o.bind fun a => .ready (f a)

/-- Asks for an outcome, and gives what that ends in. -/
def launch : Outcome α → Outcome (Launch α)
  | .ready a => .ready (.ready a)
  | .pending work => .ready (.pending work)
  | .record e rest => .record e rest.launch
  | .draw c rest => .draw c fun n => (rest n).launch

def launchAll : List (Outcome α) → Outcome (List (Launch α))
  | [] => .ready []
  | o :: rest => o.launch.bind fun l => (launchAll rest).map (l :: ·)

@[simp] theorem bind_ready (a : α) (f : α → Outcome β) : (Outcome.ready a).bind f = f a := rfl

@[simp] theorem bind_pending (w : Deferred α) (f : α → Outcome β) :
    (Outcome.pending w).bind f = .pending (w.bind fun a => (f a).toDeferred) := rfl

@[simp] theorem bind_record (e : Event) (o : Outcome α) (f : α → Outcome β) :
    (Outcome.record e o).bind f = .record e (o.bind f) := rfl

@[simp] theorem bind_draw (c : Nat) (k : Nat → Outcome α) (f : α → Outcome β) :
    (Outcome.draw c k).bind f = .draw c fun n => (k n).bind f := rfl

/-- **Awaiting a chain is a chain of awaitings.** -/
theorem toDeferred_bind (f : α → Outcome β) :
    ∀ o : Outcome α, (o.bind f).toDeferred = o.toDeferred.bind fun a => (f a).toDeferred
  | .ready _ => rfl
  | .pending _ => rfl
  | .record e rest => by simp only [bind_record, toDeferred, Deferred.bind_record, toDeferred_bind f rest]
  | .draw c rest => by
    simp only [bind_draw, toDeferred, Deferred.bind_draw]
    congr; funext n; exact toDeferred_bind f (rest n)

theorem bind_pure : ∀ o : Outcome α, o.bind .ready = o
  | .ready _ => rfl
  | .pending work => congrArg Outcome.pending (Deferred.bind_pure work)
  | .record e rest => by rw [bind_record, bind_pure rest]
  | .draw c rest => by rw [bind_draw]; congr; funext n; exact bind_pure (rest n)

theorem bind_assoc (f : α → Outcome β) (g : β → Outcome γ) :
    ∀ o : Outcome α, (o.bind f).bind g = o.bind fun a => (f a).bind g
  | .ready _ => rfl
  | .pending work => by simp only [bind_pending, Deferred.bind_assoc, toDeferred_bind]
  | .record e rest => by simp only [bind_record, bind_assoc f g rest]
  | .draw c rest => by simp only [bind_draw]; congr; funext n; exact bind_assoc f g (rest n)

@[simp] theorem map_ready (f : α → β) (a : α) : (Outcome.ready a).map f = .ready (f a) := rfl

theorem map_id (o : Outcome α) : o.map id = o := bind_pure o

theorem map_map (f : α → β) (g : β → γ) (o : Outcome α) : (o.map f).map g = o.map fun a => g (f a) :=
  bind_assoc _ _ o

instance : Monad Outcome where
  pure := .ready
  bind := bind

instance : LawfulMonad Outcome :=
  LawfulMonad.mk' Outcome map_id (fun _ _ => rfl) (fun o f g => bind_assoc f g o)

end Outcome

namespace Launch

variable {α : Type}

/-- The answer, if it is there. -/
def answer? : Launch α → Option α
  | .ready a => some a
  | .pending _ => none

def isPending : Launch α → Bool
  | .ready _ => false
  | .pending _ => true

/-- What is left as work; an answer that is there is done. -/
def toDeferred : Launch α → Deferred α
  | .ready a => .done a
  | .pending work => work

/-- The answers, if all are there, and else work that waits for all. -/
def join (launches : List (Launch α)) : Outcome (List α) :=
  match launches.mapM answer? with
  | some answers => .ready answers
  | none => .pending (.all (launches.map toDeferred))

end Launch

/-- **Asks for every outcome, in order**; pending when one of them is, and answering in their order. -/
def Outcome.join {α : Type} (outcomes : List (Outcome α)) : Outcome (List α) := (launchAll outcomes).bind Launch.join

/-- An answer that comes after some polls, and is recorded when it comes. -/
def Step.answerAfter {α : Type} (s : Step) (polls : Nat) (answer : α) : Deferred α :=
  .after polls (.record (.settled s) (.done answer))

/-- **A user's step with its answer**: the call is recorded; a deferred answer comes after the step's polls. -/
def Step.call {α : Type} (s : Step) (answer : α) : Outcome α :=
  .record (.invoked s) <|
    match s.timing with
    | .immediate => .ready answer
    | .deferred polls => .pending (s.answerAfter polls answer)
    | .varying counter polls => .draw counter fun n => .pending (s.answerAfter (polls n) answer)

end Schemata
