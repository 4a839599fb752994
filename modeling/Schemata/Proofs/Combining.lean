import Schemata.Proofs.Likeness
import Schemata.Proofs.Members
import Schemata.Proofs.Nesting
import Schemata.Proofs.Pipelines
/-!
# Combining — outcomes after one another and side by side

All validation is put together from a few ways to combine outcomes: going on with an answer or with an output, changing
it, and joining several.  They keep laws (`Outcome.combinators_lawful`): however a chain is put into parts it is the same
outcome, a report goes through a chain as if nothing followed, and what is joined comes to the answers of its parts in
their places, whichever of them are there at once and whichever of the others comes first.

Joined outcomes can settle to whatever each of them can settle to (`Outcome.ends_join_iff`), so two lists of outcomes
may be joined together or apart (`Outcome.ends_join_append`).
-/
namespace Schemata

variable {α β γ : Type}

namespace Launch

/-- No two answers can come of it, whatever numbers are drawn while it is awaited. -/
def Determinate (l : Launch α) : Prop := ∀ a b, l.toDeferred.Ends a → l.toDeferred.Ends b → a = b

theorem ends_await (counters : Counters) : ∀ l : Launch α, l.toDeferred.Ends (l.await counters).result
  | .ready a => (Deferred.ends_done a a).2 rfl
  | .pending work => ⟨_, Deferred.runs_await work counters⟩

/-- **Launches that are joined settle to whatever each of them can settle to.** -/
theorem ends_join_iff {launches : List (Launch α)} {as : List α} :
    (join launches).Ends as ↔ List.Forall₂ (fun l a => l.toDeferred.Ends a) launches as := by
  refine ⟨ends_join, fun h => ?_⟩
  rcases join_cases launches with ⟨answers, rfl, hjoin⟩ | ⟨-, hjoin⟩
  · have hsame : List.Forall₂ (· = ·) answers as :=
      (List.forall₂_map_left_iff.1 h).imp fun a b hb => ((Deferred.ends_done a b).1 hb).symm
    rw [List.forall₂_eq_eq_eq] at hsame
    rw [hjoin, ← hsame]
    exact (Outcome.ends_ready answers answers).2 rfl
  · rw [hjoin]
    exact (Deferred.ends_all _ as).2 (List.forall₂_map_left_iff.2 h)

end Launch

namespace Outcome

/-! ## Side by side -/

/-- **What an outcome can settle to, something that it can be launched to can settle to.** -/
theorem exists_launch_of_ends : ∀ (o : Outcome α) {a : α}, o.Ends a → ∃ l, o.launch.Ends l ∧ l.toDeferred.Ends a
  | .ready b, a, h => ⟨.ready b, (ends_ready _ _).2 rfl, h⟩
  | .pending work, a, h => ⟨.pending work, (ends_ready _ _).2 rfl, h⟩
  | .record e rest, a, h => by
    obtain ⟨l, hl, ha⟩ := exists_launch_of_ends rest ((ends_record e rest a).1 h)
    exact ⟨l, (ends_record e rest.launch l).2 hl, ha⟩
  | .draw c rest, a, h => by
    obtain ⟨n, h⟩ := (ends_draw c rest a).1 h
    obtain ⟨l, hl, ha⟩ := exists_launch_of_ends (rest n) h
    exact ⟨l, (ends_draw c (fun n => (rest n).launch) l).2 ⟨n, hl⟩, ha⟩

theorem exists_launches_of_ends {os : List (Outcome α)} {as : List α} (h : List.Forall₂ Ends os as) :
    ∃ launches, (launchAll os).Ends launches ∧ List.Forall₂ (fun l a => l.toDeferred.Ends a) launches as := by
  induction h with
  | nil => exact ⟨[], (ends_ready _ _).2 rfl, .nil⟩
  | @cons o a rest as ho _ ih =>
    obtain ⟨l, hl, ha⟩ := exists_launch_of_ends o ho
    obtain ⟨launches, hlaunches, has⟩ := ih
    exact ⟨l :: launches, (ends_bind _ _ _).2 ⟨l, hl, (ends_map _ _ _).2 ⟨launches, hlaunches, rfl⟩⟩, .cons ha has⟩

/-- **Joined outcomes can settle to whatever each of them can settle to**, each at its place: none rules an answer of
another out. -/
theorem ends_join_iff {os : List (Outcome α)} {as : List α} : (join os).Ends as ↔ List.Forall₂ Ends os as := by
  refine ⟨ends_join, fun h => ?_⟩
  obtain ⟨launches, hlaunches, has⟩ := exists_launches_of_ends h
  exact (ends_bind _ _ as).2 ⟨launches, hlaunches, Launch.ends_join_iff.2 has⟩

/-- **Two lists of outcomes may be joined together or apart.** -/
theorem ends_join_append {os os' : List (Outcome α)} {as : List α} :
    (join (os ++ os')).Ends as ↔ ∃ bs cs, (join os).Ends bs ∧ (join os').Ends cs ∧ as = bs ++ cs := by
  simp only [ends_join_iff]
  constructor
  · intro h
    obtain ⟨bs, cs, rfl, hbs, hcs⟩ := forall₂_append_left h
    exact ⟨bs, cs, hbs, hcs, rfl⟩
  · rintro ⟨bs, cs, hbs, hcs, rfl⟩
    exact List.rel_append hbs hcs

theorem startAll_append (os' : List (Outcome α)) : ∀ (os : List (Outcome α)) (counters : Counters),
    let first := startAll os counters
    let second := startAll os' first.counters
    startAll (os ++ os') counters = ⟨first.result ++ second.result, first.log ++ second.log, second.counters⟩
  | [], _ => rfl
  | o :: os, counters => by
    have ih := startAll_append os' os (o.start counters).counters
    simp only [List.cons_append, startAll, ih, List.append_assoc]

/-- **Awaited together, each launch goes its own way to its own end.** -/
theorem runTogether_settle_join (os : List (Outcome α)) (counters : Counters) :
    let asked := startAll os counters
    let settled := (join os).settle counters
    ∃ log, settled.log = asked.log ++ log ∧
      Deferred.RunTogether (asked.result.map Launch.toDeferred) log settled.result := by
  intro asked settled
  have hsettled := settle_join os counters
  refine ⟨_, congrArg Run.log hsettled, ?_⟩
  rw [show settled.result = _ from congrArg Run.result hsettled]
  exact Deferred.runs_all (Deferred.runs_await _ _)

/-- **Joined outcomes settle to the answers of their launches**, each of which may as well be awaited alone. -/
theorem result_settle_join {os : List (Outcome α)} {counters : Counters}
    (h : ∀ l ∈ (startAll os counters).result, l.Determinate) (alone : Counters) :
    ((join os).settle counters).result = (startAll os counters).result.map fun l => (l.await alone).result := by
  obtain ⟨log, -, htogether⟩ := runTogether_settle_join os counters
  have halone : List.Forall₂ Deferred.Ends ((startAll os counters).result.map Launch.toDeferred)
      ((startAll os counters).result.map fun l => (l.await alone).result) := by
    simp only [List.forall₂_map_left_iff, List.forall₂_map_right_iff, List.forall₂_same]
    exact fun l _ => l.ends_await alone
  exact Deferred.forall₂_ends_unique (List.forall_mem_map.2 h) htogether.ends halone

/-! ## After one another -/

theorem mapSuccess_eq_andThen (f : α → β) (o : Outcome (Verdict α)) :
    o.mapSuccess f = o.andThen fun a => success (f a) := by
  unfold mapSuccess map andThen
  congr
  funext verdict
  cases verdict <;> rfl

/-- **A report passes through a chain**: it is started and settled as if nothing followed. -/
theorem andThen_of_settle_error (f : α → Outcome (Verdict β)) {o : Outcome (Verdict α)} {counters : Counters}
    {report : Report} (h : (o.settle counters).result = .error report) :
    (((o.andThen f).start counters).log = (o.start counters).log ∧
      ((o.andThen f).start counters).counters = (o.start counters).counters ∧
      ((o.andThen f).start counters).result.isPending = (o.start counters).result.isPending) ∧
    (o.andThen f).settle counters = ⟨.error report, (o.settle counters).log, (o.settle counters).counters⟩ := by
  refine ⟨?_, settle_andThen_of_error f h⟩
  cases hstart : (o.start counters).result with
  | ready verdict =>
    have hverdict : verdict = .error report := by
      rw [settle_eq, hstart] at h
      exact h
    rw [start_andThen_of_error f (hstart.trans (congrArg Launch.ready hverdict))]
    exact ⟨rfl, rfl, rfl⟩
  | pending work =>
    rw [andThen, start_bind_of_pending _ o hstart]
    exact ⟨rfl, rfl, rfl⟩

/-! ## The laws -/

/-- **Outcomes are combined lawfully.**  Two outcomes are equal here when the same is recorded and drawn before they are
ready or pending, which they are alike, and the same at every poll after it; so they settle alike.

An answer that is there is gone on with at once, going on with nothing changes nothing, how a chain is put into parts
does not matter, and changing an answer is a chain of its own, done at once or when the answer comes.  The same holds of
outputs; and where a report comes, a chain starts and settles as if nothing followed, whatever that is.

Joined outcomes are all started, each once and in order, and are pending exactly when one of them is.  Awaited, each
goes its own way to its own end, and the ends stand in the order of the outcomes, one for each.  If none has more than
one end, whatever numbers are drawn meanwhile, these are the answers that each comes to alone, at whatever poll it comes;
and in any case they can come together to just the answers that each can come to alone.  Two lists joined together come
to what they come to apart, one behind the other, and to change each answer before joining is to change all of them
after it. -/
theorem combinators_lawful (a : α) (o : Outcome α) (f : α → Outcome β) (g : β → Outcome γ) (h : α → β)
    (v : Outcome (Verdict α)) (p : α → Outcome (Verdict β)) (q : β → Outcome (Verdict γ))
    (children others : List (Outcome α)) (counters : Counters) :
    let asked := startAll children counters
    let askedOthers := startAll others asked.counters
    let launched := (join children).start counters
    let settled := (join children).settle counters
    let settledOthers := (join others).settle asked.counters
    ((Outcome.ready a).bind f = f a ∧ o.bind .ready = o ∧ (o.bind f).bind g = (o.bind fun a => (f a).bind g) ∧
      o.map h = (o.bind fun a => .ready (h a)) ∧
      (o.map h).start counters = (o.start counters).map (Launch.map h) ∧
      (o.map h).settle counters = (o.settle counters).map h) ∧
    ((success a).andThen p = p a ∧ v.andThen success = v ∧
      (v.andThen p).andThen q = (v.andThen fun a => (p a).andThen q) ∧
      v.mapSuccess h = (v.andThen fun a => success (h a)) ∧
      ∀ report, (v.settle counters).result = .error report →
        (((v.andThen p).start counters).log = (v.start counters).log ∧
          ((v.andThen p).start counters).counters = (v.start counters).counters ∧
          ((v.andThen p).start counters).result.isPending = (v.start counters).result.isPending) ∧
        (v.andThen p).settle counters = ⟨.error report, (v.settle counters).log, (v.settle counters).counters⟩) ∧
    ((launched.log = asked.log ∧ launched.counters = asked.counters ∧
        (launched.result.isPending = true ↔ ∃ l ∈ asked.result, l.isPending = true)) ∧
      settled.result.length = children.length ∧
      (∃ log, settled.log = asked.log ++ log ∧
        Deferred.RunTogether (asked.result.map Launch.toDeferred) log settled.result) ∧
      ((∀ l ∈ asked.result, l.Determinate) →
        ∀ alone, settled.result = asked.result.map fun l => (l.await alone).result) ∧
      ∀ answers, (join children).Ends answers ↔ List.Forall₂ Ends children answers) ∧
    (((∀ l ∈ asked.result ++ askedOthers.result, l.Determinate) →
        ((join (children ++ others)).settle counters).result = settled.result ++ settledOthers.result) ∧
      ∀ answers, (join (children ++ others)).Ends answers ↔
        ∃ first second, (join children).Ends first ∧ (join others).Ends second ∧ answers = first ++ second) ∧
    join (children.map fun o => o.map h) = (join children).map (List.map h) := by
  intro asked askedOthers launched settled settledOthers
  have hlaunched := start_join children counters
  have hlength : settled.result.length = children.length := (ends_join (ends_settle _ counters)).length_eq.symm
  refine ⟨⟨rfl, bind_pure o, bind_assoc f g o, rfl, start_map_eq h o counters, settle_map h o counters⟩,
    ⟨rfl, andThen_success v, andThen_assoc p q v, mapSuccess_eq_andThen h v, fun _ => andThen_of_settle_error p⟩,
    ⟨⟨hlaunched.1, hlaunched.2, isPending_start_join children counters⟩, hlength,
      runTogether_settle_join children counters, result_settle_join, fun _ => ends_join_iff⟩,
    ⟨fun hdeterminate => ?_, fun _ => ends_join_append⟩, join_map h children⟩
  -- the second list is asked with the counters that the first leaves, joined together or apart
  have hboth : (startAll (children ++ others) counters).result = asked.result ++ askedOthers.result :=
    congrArg Run.result (startAll_append others children counters)
  obtain ⟨hfirst, hsecond⟩ := List.forall_mem_append.1 hdeterminate
  calc ((join (children ++ others)).settle counters).result
      = (asked.result ++ askedOthers.result).map fun l => (l.await counters).result := by
        rw [result_settle_join (hboth ▸ hdeterminate) counters, hboth]
    _ = settled.result ++ settledOthers.result := by
        rw [List.map_append, ← result_settle_join hfirst, ← result_settle_join hsecond]

/-- Of four answers two are late and the second of these comes first, and still each stands at its place; and of a
report that comes late nothing is made, though a step was to follow. -/
theorem late_answers_in_place :
    let late : Nat → String → Outcome String := fun polls answer => .pending (.after polls (.done answer))
    let children := [.ready "first", late 2 "second"]
    let others := [late 1 "third", .ready "fourth"]
    let refused : Outcome (Verdict String) := .pending (.pause (.done (.error (.custom .root "late"))))
    let next : String → Outcome (Verdict String) := fun answer => Step.plain.call (.ok answer)
    let asked := startAll children .fresh
    (∀ l ∈ asked.result ++ (startAll others asked.counters).result, l.Determinate) ∧
      ((join children).settle .fresh).result = ["first", "second"] ∧
      ((join (children ++ others)).settle .fresh).result = ["first", "second", "third", "fourth"] ∧
      (refused.settle .fresh).result = .error (.custom .root "late") ∧
      (refused.andThen next).settle .fresh = ⟨.error (.custom .root "late"), [], .fresh⟩ := by
  intro late children others refused next asked
  have hlate : ∀ polls answer, (Launch.pending (.after polls (.done answer)) : Launch String).Determinate :=
    fun polls answer a b ha hb => by
      simp only [Launch.toDeferred, Deferred.ends_after, Deferred.ends_done] at ha hb
      rw [ha, hb]
  have hready : ∀ answer : String, (Launch.ready answer).Determinate := fun answer a b ha hb =>
    ((Deferred.ends_done answer a).1 ha).trans ((Deferred.ends_done answer b).1 hb).symm
  have hdeterminate : ∀ l ∈ asked.result ++ (startAll others asked.counters).result, l.Determinate :=
    List.forall_mem_cons.2 ⟨hready _, List.forall_mem_cons.2 ⟨hlate 2 _, List.forall_mem_cons.2 ⟨hlate 1 _,
      List.forall_mem_cons.2 ⟨hready _, List.forall_mem_nil _⟩⟩⟩⟩
  obtain ⟨-, ⟨-, -, -, -, hreport⟩, ⟨-, -, -, hchildren, -⟩, ⟨happend, -⟩, -⟩ :=
    combinators_lawful "first" (.ready "first") (late 1) (late 1) id refused next next children others .fresh
  have hfirst := hchildren (List.forall_mem_append.1 hdeterminate).1 .fresh
  exact ⟨hdeterminate, hfirst, happend hdeterminate, rfl, (hreport _ rfl).2⟩

end Outcome
end Schemata
