import Schemata.Proofs.Starts
import Schemata.Proofs.Traces
import Schemata.Validator.Union
/-!
# Union — which candidate decides, and what is done on the way

What a union comes to is read off the candidates' own outcomes, started one after the other.  If one of them accepts at
once the first such decides and nothing after it is started; otherwise all are started, the pending ones are awaited
together, and the first of these that accepts decides.  If none accepts, the issues of those that refused at once come
before the issues of those that refused later.
-/
namespace Schemata

variable {α : Type}

namespace Launch

/-- The work that is left to await, if any is. -/
def work? : Launch α → Option (Deferred α)
  | .ready _ => none
  | .pending work => some work

/-- The output of a candidate that accepts at once. -/
def accepted? : Launch (Verdict α) → Option α
  | .ready verdict => verdict.output?
  | .pending _ => none

/-- The issues of a candidate that refuses at once. -/
def issues : Launch (Verdict α) → List Issue
  | .ready verdict => verdict.issues
  | .pending _ => []

/-- The answers in their places: those that are there, and in the place of each pending one the next that was awaited. -/
def inPlace : List (Launch α) → List α → List α
  | .ready a :: rest, awaited => a :: inPlace rest awaited
  | .pending _ :: rest, a :: awaited => a :: inPlace rest awaited
  | _, _ => []

/-- What candidates come to none of which accepts at once. -/
def ofUndecided (refused : Report) : List (Deferred (Verdict α)) → Launch (Verdict α)
  | [] => .ready (.error refused)
  | works => .pending ((Deferred.all works).map (Verdict.firstOutput refused))

theorem work?_eq_none_iff : ∀ l : Launch α, l.work? = none ↔ l.isPending = false
  | .ready _ => by simp [work?, isPending]
  | .pending _ => by simp [work?, isPending]

theorem isPending_ofUndecided (refused : Report) (ls : List (Launch (Verdict α))) :
    (ofUndecided refused (ls.filterMap work?)).isPending = true ↔ ∃ l ∈ ls, l.isPending = true := by
  cases hw : ls.filterMap work? with
  | nil =>
    have hnone := List.filterMap_eq_nil_iff.1 hw
    constructor
    · intro h
      cases h
    · rintro ⟨l, hl, hp⟩
      rw [(work?_eq_none_iff l).1 (hnone l hl)] at hp
      cases hp
  | cons w works =>
    refine ⟨fun _ => ?_, fun _ => rfl⟩
    have hmem : w ∈ ls.filterMap work? := by rw [hw]; exact List.mem_cons_self
    obtain ⟨l, hl, hlw⟩ := List.mem_filterMap.1 hmem
    cases l with
    | ready a => cases hlw
    | pending _ => exact ⟨_, hl, rfl⟩

/-- **Where no pending answer stands before one that was there, the issues keep the order of the places.** -/
theorem flatMap_inPlace : ∀ (ls : List (Launch (Verdict α))) (awaited : List (Verdict α)),
    ls.Pairwise (fun l l' => l.isPending = true → l'.isPending = true) →
      awaited.length = (ls.filterMap work?).length →
        (inPlace ls awaited).flatMap Verdict.issues = ls.flatMap issues ++ awaited.flatMap Verdict.issues
  | [], awaited, _, hlen => by
    obtain rfl := List.length_eq_zero_iff.1 hlen
    rfl
  | .ready a :: ls, awaited, h, hlen => by
    have ih := flatMap_inPlace ls awaited (List.pairwise_cons.1 h).2 hlen
    simp [inPlace, issues, ih]
  | .pending w :: ls, [], _, hlen => by simp [work?] at hlen
  | .pending w :: ls, a :: awaited, h, hlen => by
    obtain ⟨hlater, h⟩ := List.pairwise_cons.1 h
    have hlen' : awaited.length = (ls.filterMap work?).length := by
      simpa [work?, List.filterMap_cons] using hlen
    have ih := flatMap_inPlace ls awaited h hlen'
    have hnone : ls.flatMap issues = [] := by
      refine List.flatMap_eq_nil_iff.2 fun l hl => ?_
      have hp := hlater l hl rfl
      cases l with
      | ready _ => cases hp
      | pending _ => rfl
    simp [inPlace, issues, ih, hnone]

end Launch

namespace Verdict

/-- **The first output decides.** -/
theorem firstOutput_of_getElem? (refused : Report) : ∀ (verdicts : List (Verdict α)) (k : Nat) {a : α},
    verdicts[k]? = some (.ok a) → (∀ x ∈ verdicts.take k, x.output? = none) → firstOutput refused verdicts = .ok a
  | [], _, _, h, _ => by simp at h
  | .ok b :: _, 0, _, h, _ => by
    obtain rfl := Except.ok.inj (Option.some.inj h)
    rfl
  | .error _ :: _, 0, _, h, _ => by simp at h
  | .ok b :: rest, k + 1, _, _, hbefore => by
    have h := hbefore (.ok b) (by simp)
    cases h
  | .error r :: rest, k + 1, _, h, hbefore =>
    firstOutput_of_getElem? (refused.merge r) rest k h fun x hx => hbefore x (List.mem_cons_of_mem _ hx)

/-- **Without any output the reports follow each other.** -/
theorem firstOutput_of_none : ∀ (refused : Report) (verdicts : List (Verdict α)), (∀ x ∈ verdicts, x.output? = none) →
    firstOutput refused verdicts = .error ⟨refused.issues ++ verdicts.flatMap issues⟩
  | refused, [], _ => by simp [firstOutput]
  | _, .ok a :: _, h => by
    have h := h (.ok a) List.mem_cons_self
    cases h
  | refused, .error r :: rest, h => by
    rw [firstOutput, firstOutput_of_none (refused.merge r) rest fun x hx => h x (List.mem_cons_of_mem _ hx)]
    simp [Report.merge, issues]

end Verdict

/-! ## Asking the candidates -/

section Scan

variable {v : Value} {path : Path}

/-- **A candidate that accepts at once decides**, and no other is started after it. -/
theorem start_scanCandidates_of_accepted : ∀ (candidates : List Check) (refused : Report)
    (waiting : List (Deferred (Verdict Value))) (counters : Counters) (i : Nat) {out : Value},
    (Outcome.startAll (candidates.map fun c => c v path) counters).result[i]? = some (.ready (.ok out)) →
      (∀ l ∈ (Outcome.startAll (candidates.map fun c => c v path) counters).result.take i, l.accepted? = none) →
        (scanCandidates v path refused waiting candidates).start counters =
          ⟨.ready (.ok out), (Outcome.startAll ((candidates.map fun c => c v path).take (i + 1)) counters).log,
            (Outcome.startAll ((candidates.map fun c => c v path).take (i + 1)) counters).counters⟩
  | [], _, _, _, _, _, h, _ => by simp [Outcome.startAll] at h
  | c :: rest, refused, waiting, counters, 0, out, h, _ => by
    have hc : ((c v path).start counters).result = .ready (.ok out) := Option.some.inj h
    rw [scanCandidates, Outcome.start_launch_bind, hc]
    simp [Outcome.success, Outcome.start, Outcome.startAll, Run.afterAll]
  | c :: rest, refused, waiting, counters, i + 1, out, h, hbefore => by
    have ih := fun refused waiting => start_scanCandidates_of_accepted rest refused waiting
      ((c v path).start counters).counters i h fun l hl => hbefore l (List.mem_cons_of_mem _ hl)
    have hc := hbefore ((c v path).start counters).result (by simp [Outcome.startAll])
    rw [scanCandidates, Outcome.start_launch_bind]
    cases hl : ((c v path).start counters).result with
    | ready verdict =>
      cases verdict with
      | ok a => rw [hl] at hc; cases hc
      | error r => rw [ih]; rfl
    | pending work => rw [ih]; rfl

/-- **Candidates none of which accepts at once are all started**, and the later ones after them. -/
theorem start_scanCandidates_append (later : List Check) : ∀ (candidates : List Check) (refused : Report)
    (waiting : List (Deferred (Verdict Value))) (counters : Counters),
    (∀ l ∈ (Outcome.startAll (candidates.map fun c => c v path) counters).result, l.accepted? = none) →
      let asked := Outcome.startAll (candidates.map fun c => c v path) counters
      (scanCandidates v path refused waiting (candidates ++ later)).start counters =
        ((scanCandidates v path (refused.merge ⟨asked.result.flatMap Launch.issues⟩)
          (waiting ++ asked.result.filterMap Launch.work?) later).start asked.counters).afterAll asked.log
  | [], refused, waiting, counters, _ => by
    simp [Outcome.startAll, Run.afterAll, Report.merge]
  | c :: rest, refused, waiting, counters, h => by
    have ih := fun refused waiting => start_scanCandidates_append later rest refused waiting
      ((c v path).start counters).counters fun l hl => h l (List.mem_cons_of_mem _ hl)
    have hc := h ((c v path).start counters).result List.mem_cons_self
    simp only [List.cons_append, scanCandidates, Outcome.start_launch_bind, List.map_cons, Outcome.startAll]
    cases hl : ((c v path).start counters).result with
    | ready verdict =>
      cases verdict with
      | ok a => rw [hl] at hc; cases hc
      | error r =>
        simp only [ih]
        simp [Run.afterAll, Report.merge, Launch.issues, Verdict.issues, Launch.work?, List.filterMap_cons]
    | pending work =>
      simp only [ih]
      simp [Run.afterAll, Report.merge, Launch.issues, Launch.work?]

/-- What is left when every candidate was asked and none has accepted. -/
theorem start_scanCandidates_nil (refused : Report) (waiting : List (Deferred (Verdict Value))) (counters : Counters) :
    (scanCandidates v path refused waiting []).start counters = ⟨.ofUndecided refused waiting, [], counters⟩ := by
  cases waiting <;> rfl

/-- **Without a candidate that accepts at once every candidate is started**, each once and in order. -/
theorem start_scanCandidates_of_undecided (candidates : List Check) (refused : Report)
    (waiting : List (Deferred (Verdict Value))) (counters : Counters)
    (h : ∀ l ∈ (Outcome.startAll (candidates.map fun c => c v path) counters).result, l.accepted? = none) :
    (scanCandidates v path refused waiting candidates).start counters =
      ⟨.ofUndecided
          (refused.merge ⟨(Outcome.startAll (candidates.map fun c => c v path) counters).result.flatMap Launch.issues⟩)
          (waiting ++ (Outcome.startAll (candidates.map fun c => c v path) counters).result.filterMap Launch.work?),
        (Outcome.startAll (candidates.map fun c => c v path) counters).log,
        (Outcome.startAll (candidates.map fun c => c v path) counters).counters⟩ := by
  have happ := start_scanCandidates_append [] candidates refused waiting counters h
  rw [List.append_nil] at happ
  rw [happ, start_scanCandidates_nil]
  simp [Run.afterAll]

end Scan

theorem Outcome.settle_of_undecided {o : Outcome (Verdict α)} {counters counters' : Counters} {refused : Report}
    {works : List (Deferred (Verdict α))} {log : List Event}
    (h : o.start counters = ⟨.ofUndecided refused works, log, counters'⟩) :
    o.settle counters =
      (((Deferred.all works).await counters').map (Verdict.firstOutput refused)).afterAll log := by
  cases works with
  | nil =>
    rw [settle_of_start_ready h]
    simp [Deferred.all, Turns.ofList, Turns.byRound, Deferred.await, Run.map, Run.afterAll, Verdict.firstOutput]
  | cons w works => rw [settle_of_start_pending h, Deferred.await_map]

namespace Check

theorem union_eq_scanCandidates {candidates : List Check} (h : candidates ≠ []) (v : Value) (path : Path) :
    Check.union candidates v path = scanCandidates v path .empty [] candidates := by
  rw [Check.union, if_neg (by simpa using h)]

/-- **What a union comes to.**  `asked` is what the candidates come to when all are started one after the other, and
`joint` how the pending ones go when they are awaited together.  A first candidate that accepts at once decides, and the
union does what starting the candidates up to this one does and nothing else.  If none does, every candidate is started
and the union is pending when one of them is; every pending one is then awaited to its end, and the first that accepts
decides, or the issues follow each other, those that were there at once first. -/
theorem union_exact (candidates : List Check) (v : Value) (path : Path) (counters : Counters) :
    let outcomes := candidates.map fun c => c v path
    let asked := Outcome.startAll outcomes counters
    let waiting := asked.result.filterMap Launch.work?
    let joint := (Deferred.all waiting).await asked.counters
    (candidates = [] →
      Check.union candidates v path = .ready (.error ⟨[⟨path, .custom, "union has no candidate schemas"⟩]⟩)) ∧
    (∀ i out, asked.result[i]? = some (.ready (.ok out)) → (∀ l ∈ asked.result.take i, l.accepted? = none) →
      let first := Outcome.startAll (outcomes.take (i + 1)) counters
      (Check.union candidates v path).start counters = ⟨.ready (.ok out), first.log, first.counters⟩ ∧
        (Check.union candidates v path).settle counters = ⟨.ok out, first.log, first.counters⟩) ∧
    (candidates ≠ [] → (∀ l ∈ asked.result, l.accepted? = none) →
      let launched := (Check.union candidates v path).start counters
      let settled := (Check.union candidates v path).settle counters
      (launched.log = asked.log ∧ launched.counters = asked.counters ∧
        (launched.result.isPending = true ↔ ∃ l ∈ asked.result, l.isPending = true)) ∧
      (settled.log = asked.log ++ joint.log ∧ Deferred.RunTogether waiting joint.log joint.result) ∧
      (∀ k out, joint.result[k]? = some (.ok out) → (∀ verdict ∈ joint.result.take k, verdict.output? = none) →
        settled.result = .ok out) ∧
      ((∀ verdict ∈ joint.result, verdict.output? = none) →
        settled.result = .error ⟨asked.result.flatMap Launch.issues ++ joint.result.flatMap Verdict.issues⟩ ∧
        (asked.result.Pairwise (fun l l' => l.isPending = true → l'.isPending = true) →
          settled.result = .error ⟨(Launch.inPlace asked.result joint.result).flatMap Verdict.issues⟩))) := by
  intro outcomes asked waiting joint
  refine ⟨?_, fun i out hi hbefore => ?_, fun hne hnone => ?_⟩
  · rintro rfl
    rfl
  · have hne : candidates ≠ [] := by
      rintro rfl
      simp [asked, outcomes, Outcome.startAll] at hi
    have hstart : (Check.union candidates v path).start counters = ⟨.ready (.ok out),
        (Outcome.startAll (outcomes.take (i + 1)) counters).log,
        (Outcome.startAll (outcomes.take (i + 1)) counters).counters⟩ := by
      rw [union_eq_scanCandidates hne]
      exact start_scanCandidates_of_accepted candidates .empty [] counters i hi hbefore
    exact ⟨hstart, Outcome.settle_of_start_ready hstart⟩
  · have hstart : (Check.union candidates v path).start counters =
        ⟨.ofUndecided ⟨asked.result.flatMap Launch.issues⟩ waiting, asked.log, asked.counters⟩ := by
      rw [union_eq_scanCandidates hne, start_scanCandidates_of_undecided candidates .empty [] counters hnone]
      simp [Report.empty, Report.merge, asked, waiting, outcomes]
    have hsettle := Outcome.settle_of_undecided hstart
    have htogether : Deferred.RunTogether waiting joint.log joint.result := Deferred.runs_all (Deferred.runs_await _ _)
    refine ⟨?_, ⟨?_, htogether⟩, fun k out hk hbefore => ?_, fun hall => ?_⟩
    · rw [hstart]
      exact ⟨rfl, rfl, Launch.isPending_ofUndecided _ _⟩
    · rw [hsettle]
      rfl
    · rw [hsettle]
      exact Verdict.firstOutput_of_getElem? _ joint.result k hk hbefore
    · have herror : ((Check.union candidates v path).settle counters).result =
          .error ⟨asked.result.flatMap Launch.issues ++ joint.result.flatMap Verdict.issues⟩ := by
        rw [hsettle]
        exact Verdict.firstOutput_of_none _ joint.result hall
      refine ⟨herror, fun hpair => ?_⟩
      rw [herror, Launch.flatMap_inPlace asked.result joint.result hpair htogether.ends.length_eq.symm]

/-- A candidate that accepts late decides over one that refuses at once. -/
theorem union_of_late_acceptance :
    let late : Check := fun v _ => .pending (.pause (.done (.ok v)))
    let refusing : Check := fun _ path => .failure (.custom path "refused")
    (∀ l ∈ (Outcome.startAll [late .null .root, refusing .null .root] .fresh).result, l.accepted? = none) ∧
      ((Check.union [late, refusing] .null .root).settle .fresh).result = .ok .null := by
  intro late refusing
  have hnone : ∀ l ∈ (Outcome.startAll [late .null .root, refusing .null .root] .fresh).result, l.accepted? = none := by
    intro l hl
    rcases List.mem_cons.1 hl with rfl | hl
    · rfl
    · rw [List.mem_singleton.1 hl]
      rfl
  have hundecided := (union_exact [late, refusing] .null .root .fresh).2.2 (List.cons_ne_nil _ _) hnone
  exact ⟨hnone, hundecided.2.2.1 0 .null rfl fun _ h => by cases h⟩

end Check
end Schemata
