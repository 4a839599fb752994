import Schemata.Outcome.Run
/-!
# Starts — outcomes that are asked for one after the other

Asking for several outcomes is starting each with the counters that the one before it left (`Outcome.startAll`): the logs
follow each other, and what each ends in stands at its position.
-/
namespace Schemata

variable {α β : Type}

namespace Run

/-- The same run with a log before its own. -/
def afterAll (log : List Event) (r : Run α) : Run α := { r with log := log ++ r.log }

end Run

namespace Deferred

theorem await_bind (f : α → Deferred β) : ∀ (w : Deferred α) (counters : Counters),
    (w.bind f).await counters =
      ((f (w.await counters).result).await (w.await counters).counters).afterAll (w.await counters).log
  | .done _, _ => rfl
  | .record e rest, counters => by
    rw [bind_record, await, await_bind f rest counters]
    rfl
  | .draw c rest, counters => await_bind f (rest (counters c)) (counters.advance c)
  | .pause rest, counters => await_bind f rest counters

theorem await_map (f : α → β) (w : Deferred α) (counters : Counters) :
    (w.map f).await counters = (w.await counters).map f := by
  rw [map, await_bind]
  simp only [await, Run.afterAll, Run.map, List.append_nil]

end Deferred

namespace Outcome

/-- **Goes on from where a start ended**, with the counters that it left. -/
theorem start_launch_bind (f : Launch α → Outcome β) : ∀ (o : Outcome α) (counters : Counters),
    (o.launch.bind f).start counters =
      ((f (o.start counters).result).start (o.start counters).counters).afterAll (o.start counters).log
  | .ready _, _ => rfl
  | .pending _, _ => rfl
  | .record e rest, counters => by
    rw [launch, bind_record, start, start_launch_bind f rest counters]
    rfl
  | .draw c rest, counters => start_launch_bind f (rest (counters c)) (counters.advance c)

/-- Starts outcomes one after the other. -/
def startAll : List (Outcome α) → Counters → Run (List (Launch α))
  | [], counters => ⟨[], [], counters⟩
  | o :: rest, counters =>
    let first := o.start counters
    let others := startAll rest first.counters
    ⟨first.result :: others.result, first.log ++ others.log, others.counters⟩

theorem launchAll_ready : ∀ as : List α, launchAll (as.map .ready) = .ready (as.map .ready)
  | [] => rfl
  | a :: as => by rw [List.map_cons, launchAll, launchAll_ready as, launch, bind_ready, map_ready, List.map_cons]

/-- **Answers that are all there are joined at once.** -/
theorem join_ready (as : List α) : join (as.map .ready) = .ready as := by
  have hanswers : (as.map Launch.ready).mapM Launch.answer? = some as := by
    rw [List.mapM_map]
    induction as with
    | nil => rfl
    | cons a as ih => rw [List.mapM_cons, Function.comp_apply, Launch.answer?, ih]; rfl
  rw [join, launchAll_ready, bind_ready, Launch.join, hanswers]

theorem settle_of_start_ready {o : Outcome α} {counters : Counters} {a : α} {log : List Event} {counters' : Counters}
    (h : o.start counters = ⟨.ready a, log, counters'⟩) : o.settle counters = ⟨a, log, counters'⟩ := by
  rw [settle_eq, h]

theorem settle_of_start_pending {o : Outcome α} {counters : Counters} {w : Deferred α} {log : List Event}
    {counters' : Counters} (h : o.start counters = ⟨.pending w, log, counters'⟩) :
    o.settle counters = (w.await counters').afterAll log := by
  rw [settle_eq, h]
  rfl

theorem settle_map (f : α → β) (o : Outcome α) (counters : Counters) :
    (o.map f).settle counters = (o.settle counters).map f := by
  unfold settle map
  rw [toDeferred_bind]
  exact Deferred.await_map f o.toDeferred counters

end Outcome
end Schemata
