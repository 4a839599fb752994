import Schemata.Proofs.Endings
import Schemata.Proofs.Rounds
import Schemata.Proofs.Union
/-!
# Nesting — a union among the candidates of a union

A union that stands among the candidates of another starts its own candidates where these would be started without it
around them, so the two start alike (`start_union_nested`).  What is left pending is then awaited together, the inner
candidates as one piece of work.  Their answers make one answer first, and that takes its place among the others:
nothing of it shows but the order of the issues (`Verdict.firstOutput_nested`).

The inner candidates are also polled as one piece.  That is a poll of each as long as few are pending; of many, one
poll of the whole covers some only, and numbers that answers draw from a counter may come in another order.
-/
namespace Schemata

variable {α : Type}

namespace Verdict

/-- The same output, or the same issues up to their order. -/
def SameButOrder : Verdict α → Verdict α → Prop
  | .ok a, .ok b => a = b
  | .error r, .error s => r.issues.Perm s.issues
  | _, _ => False

theorem SameButOrder.refl : ∀ verdict : Verdict α, verdict.SameButOrder verdict
  | .ok _ => rfl
  | .error _ => List.Perm.refl _

theorem SameButOrder.output?_eq : ∀ {verdict verdict' : Verdict α}, verdict.SameButOrder verdict' →
    verdict.output? = verdict'.output?
  | .ok _, .ok _, h => congrArg some h
  | .error _, .error _, _ => rfl

theorem firstOutput_perm {refused refused' : Report} (h : refused.issues.Perm refused'.issues) :
    ∀ verdicts : List (Verdict α), (firstOutput refused verdicts).SameButOrder (firstOutput refused' verdicts)
  | [] => h
  | .ok _ :: _ => rfl
  | .error r :: rest => firstOutput_perm (h.append_right r.issues) rest

/-- **Of verdicts in front of others the first output may be taken first**, with reports that were gathered before. -/
theorem firstOutput_firstOutput_cons : ∀ (inner : List (Verdict α)) {refused gathered all : Report}
    (after : List (Verdict α)), (refused.issues ++ gathered.issues).Perm all.issues →
      (firstOutput refused (firstOutput gathered inner :: after)).SameButOrder (firstOutput all (inner ++ after))
  | [], _, _, _, after, h => firstOutput_perm h after
  | .ok _ :: _, _, _, _, _, _ => rfl
  | .error r :: inner, refused, gathered, all, after, h => by
    refine firstOutput_firstOutput_cons inner after ?_
    change (refused.issues ++ (gathered.issues ++ r.issues)).Perm (all.issues ++ r.issues)
    rw [← List.append_assoc]
    exact h.append_right r.issues

/-- **The first output of some verdicts takes their place among the others**, and nothing but the order of issues is
changed. -/
theorem firstOutput_nested : ∀ (before : List (Verdict α)) {refused gathered all : Report}
    (inner after : List (Verdict α)), (refused.issues ++ gathered.issues).Perm all.issues →
      (firstOutput refused (before ++ firstOutput gathered inner :: after)).SameButOrder
        (firstOutput all (before ++ (inner ++ after)))
  | [], _, _, _, inner, after, h => firstOutput_firstOutput_cons inner after h
  | .ok _ :: _, _, _, _, _, _, _ => rfl
  | .error r :: before, refused, gathered, all, inner, after, h => by
    refine firstOutput_nested before inner after (List.Perm.trans ?_ (h.append_right r.issues))
    simpa only [Report.merge, List.append_assoc] using List.perm_append_comm.append_left refused.issues

end Verdict

/-! ## Starting alike -/

theorem Launch.exists_first_accepted : ∀ (ls : List (Launch (Verdict α))), (∃ l ∈ ls, l.accepted? ≠ none) →
    ∃ i out, ls[i]? = some (.ready (.ok out)) ∧ ∀ l ∈ ls.take i, l.accepted? = none
  | [], h => by simp at h
  | .ready (.ok out) :: _, _ => ⟨0, out, rfl, by simp⟩
  | .ready (.error r) :: ls, h => by
    obtain ⟨i, out, hi, hbefore⟩ := exists_first_accepted ls (by simpa [accepted?, Verdict.output?] using h)
    exact ⟨i + 1, out, hi, List.forall_mem_cons.2 ⟨rfl, hbefore⟩⟩
  | .pending w :: ls, h => by
    obtain ⟨i, out, hi, hbefore⟩ := exists_first_accepted ls (by simpa [accepted?] using h)
    exact ⟨i + 1, out, hi, List.forall_mem_cons.2 ⟨rfl, hbefore⟩⟩

theorem Launch.exists_accepted_or (ls : List (Launch (Verdict α))) :
    (∃ l ∈ ls, l.accepted? ≠ none) ∨ ∀ l ∈ ls, l.accepted? = none := by
  by_cases h : ∃ l ∈ ls, l.accepted? ≠ none
  · exact .inl h
  · exact .inr fun l hl => Classical.byContradiction fun hne => h ⟨l, hl, hne⟩

section Scan

variable {v : Value} {path : Path}

/-- **Candidates of which one accepts at once decide**, whatever was gathered before them and whatever comes after. -/
theorem exists_start_scanCandidates : ∀ (candidates : List Check) (counters : Counters),
    (∃ l ∈ (Outcome.startAll (candidates.map fun c => c v path) counters).result, l.accepted? ≠ none) →
      ∃ out log counters', ∀ refused waiting later,
        (scanCandidates v path refused waiting (candidates ++ later)).start counters =
          ⟨.ready (.ok out), log, counters'⟩
  | [], _, h => by simp [Outcome.startAll] at h
  | c :: rest, counters, h => by
    simp only [List.cons_append, scanCandidates, Outcome.start_launch_bind]
    simp only [List.map_cons, Outcome.startAll, List.exists_mem_cons_iff] at h
    cases hl : ((c v path).start counters).result with
    | ready verdict =>
      cases verdict with
      | ok out =>
        exact ⟨out, ((c v path).start counters).log ++ [], ((c v path).start counters).counters, fun _ _ _ => rfl⟩
      | error r =>
        obtain ⟨out, log, counters', ih⟩ := exists_start_scanCandidates rest ((c v path).start counters).counters
          (h.resolve_left fun h => h (by rw [hl]; rfl))
        exact ⟨out, _, counters', fun refused waiting later => by rw [ih]; rfl⟩
    | pending w =>
      obtain ⟨out, log, counters', ih⟩ := exists_start_scanCandidates rest ((c v path).start counters).counters
        (h.resolve_left fun h => h (by rw [hl]; rfl))
      exact ⟨out, _, counters', fun refused waiting later => by rw [ih]; rfl⟩

/-- A candidate that waits for pending ones of its own is one piece of work among those that are waited for. -/
theorem start_scanCandidates_cons_of_undecided {c : Check} {refused gathered : Report}
    {waiting works : List (Deferred (Verdict Value))} {later : List Check} {counters counters' : Counters}
    {log : List Event} (h : (c v path).start counters = ⟨.ofUndecided gathered works, log, counters'⟩)
    (hworks : works ≠ []) :
    (scanCandidates v path refused waiting (c :: later)).start counters =
      ((scanCandidates v path refused
        (waiting ++ [(Deferred.all works).map (Verdict.firstOutput gathered)]) later).start counters').afterAll log := by
  rw [scanCandidates, Outcome.start_launch_bind, h]
  cases works with
  | nil => exact absurd rfl hworks
  | cons w works => rfl

end Scan

namespace Check

/-- **With a union among its candidates a union starts as without.**  Either the two come to the same, or no candidate
accepts at once, some of the inner ones are pending, and both wait: one for the inner ones as one piece of work among
the others. -/
theorem start_union_nested (before inner after : List Check) (v : Value) (path : Path) (counters : Counters)
    (hinner : inner ≠ []) :
    let first := Outcome.startAll (before.map fun c => c v path) counters
    let second := Outcome.startAll (inner.map fun c => c v path) first.counters
    let third := Outcome.startAll (after.map fun c => c v path) second.counters
    let nested := (Check.union (before ++ Check.union inner :: after) v path).start counters
    let flat := (Check.union (before ++ (inner ++ after)) v path).start counters
    nested = flat ∨
      second.result.filterMap Launch.work? ≠ [] ∧
        nested = ⟨.ofUndecided ⟨first.result.flatMap Launch.issues ++ third.result.flatMap Launch.issues⟩
            (first.result.filterMap Launch.work? ++ (Deferred.all (second.result.filterMap Launch.work?)).map
              (Verdict.firstOutput ⟨second.result.flatMap Launch.issues⟩) :: third.result.filterMap Launch.work?),
          first.log ++ (second.log ++ third.log), third.counters⟩ ∧
        flat = ⟨.ofUndecided ⟨first.result.flatMap Launch.issues ++ second.result.flatMap Launch.issues ++
              third.result.flatMap Launch.issues⟩
            (first.result.filterMap Launch.work? ++
              (second.result.filterMap Launch.work? ++ third.result.filterMap Launch.work?)),
          first.log ++ (second.log ++ third.log), third.counters⟩ := by
  intro first second third nested flat
  have hnested : nested = (scanCandidates v path .empty [] (before ++ Check.union inner :: after)).start counters := by
    simp only [nested, union_eq_scanCandidates (List.append_ne_nil_of_right_ne_nil before (List.cons_ne_nil _ after))]
  have hflat : flat = (scanCandidates v path .empty [] (before ++ (inner ++ after))).start counters := by
    have hne : before ++ (inner ++ after) ≠ [] := by simp [hinner]
    simp only [flat, union_eq_scanCandidates hne]
  rcases Launch.exists_accepted_or first.result with hfirst | hfirst
  · -- one of the first accepts, and neither the inner union nor its candidates are started
    obtain ⟨out, log, counters', h⟩ := exists_start_scanCandidates before counters hfirst
    exact .inl (by rw [hnested, hflat, h, h])
  rw [start_scanCandidates_append _ before _ _ _ hfirst] at hnested hflat
  rcases Launch.exists_accepted_or second.result with hsecond | hsecond
  · -- one of the inner ones accepts, and so does the union of them
    obtain ⟨out, log, counters', h⟩ := exists_start_scanCandidates inner first.counters hsecond
    have hunion : (Check.union inner v path).start first.counters = ⟨.ready (.ok out), log, counters'⟩ := by
      rw [union_eq_scanCandidates hinner, ← h .empty [] [], List.append_nil]
    refine .inl (hnested.trans (Eq.trans ?_ hflat.symm))
    rw [h, scanCandidates, Outcome.start_launch_bind, hunion]
    simp [Outcome.success, Outcome.start, Run.afterAll]
  have hunion : (Check.union inner v path).start first.counters =
      ⟨.ofUndecided ⟨second.result.flatMap Launch.issues⟩ (second.result.filterMap Launch.work?), second.log,
        second.counters⟩ := by
    rw [union_eq_scanCandidates hinner, start_scanCandidates_of_undecided inner .empty [] _ hsecond]
    simp [Report.empty, Report.merge, second]
  rw [start_scanCandidates_append _ inner _ _ _ hsecond] at hflat
  by_cases hworks : second.result.filterMap Launch.work? = []
  · -- the union of the inner ones refuses at once, with their issues in their places
    refine .inl (hnested.trans (Eq.trans ?_ hflat.symm))
    rw [scanCandidates, Outcome.start_launch_bind, hunion, hworks]
    simp [Launch.ofUndecided, second]
  rw [start_scanCandidates_cons_of_undecided hunion hworks] at hnested
  rcases Launch.exists_accepted_or third.result with hthird | hthird
  · obtain ⟨out, log, counters', h⟩ := exists_start_scanCandidates after second.counters hthird
    refine .inl (hnested.trans (Eq.trans ?_ hflat.symm))
    have h' := fun refused waiting => h refused waiting []
    simp only [List.append_nil] at h'
    rw [h', h']
  rw [start_scanCandidates_of_undecided after _ _ _ hthird] at hnested hflat
  refine .inr ⟨hworks, hnested.trans ?_, hflat.trans ?_⟩
  · simp [Run.afterAll, Report.empty, Report.merge, first, second, third]
  · simp [Run.afterAll, Report.empty, Report.merge, first, second, third]

/-- **A union starts its candidates in order, up to some of them**, and does nothing else. -/
theorem exists_start_union (candidates : List Check) (v : Value) (path : Path) (counters : Counters) :
    ∃ k, let started := Outcome.startAll ((candidates.map fun c => c v path).take k) counters
      ((Check.union candidates v path).start counters).log = started.log ∧
        ((Check.union candidates v path).start counters).counters = started.counters := by
  by_cases hne : candidates = []
  · subst hne
    exact ⟨0, rfl, rfl⟩
  rw [union_eq_scanCandidates hne]
  rcases Launch.exists_accepted_or (Outcome.startAll (candidates.map fun c => c v path) counters).result with h | h
  · obtain ⟨i, out, hi, hbefore⟩ := Launch.exists_first_accepted _ h
    rw [start_scanCandidates_of_accepted candidates .empty [] counters i hi hbefore]
    exact ⟨i + 1, rfl, rfl⟩
  · rw [start_scanCandidates_of_undecided candidates .empty [] counters h]
    refine ⟨candidates.length, ?_⟩
    rw [List.take_of_length_le (by simp)]
    exact ⟨rfl, rfl⟩

end Check

/-! ## Settling alike -/

/-- Outcomes that start alike settle alike. -/
theorem Outcome.settle_congr {o o' : Outcome α} {counters : Counters} (h : o.start counters = o'.start counters) :
    o.settle counters = o'.settle counters := by
  rw [settle_eq, settle_eq, h]

/-- **What an outcome settles to is something that what is left of it after the start can end in.** -/
theorem Outcome.ends_start_settle (o : Outcome α) (counters : Counters) :
    (o.start counters).result.toDeferred.Ends (o.settle counters).result := by
  rw [settle_eq]
  cases (o.start counters).result with
  | ready a => exact (Deferred.ends_done a a).2 rfl
  | pending w => exact ⟨_, Deferred.runs_await w _⟩

theorem Launch.ends_ofUndecided (refused : Report) (works : List (Deferred (Verdict α))) (x : Verdict α) :
    (Launch.ofUndecided refused works).toDeferred.Ends x ↔
      ∃ verdicts, List.Forall₂ Deferred.Ends works verdicts ∧ x = Verdict.firstOutput refused verdicts := by
  cases works with
  | nil =>
    refine (Deferred.ends_done _ x).trans ⟨fun h => ⟨[], .nil, h⟩, ?_⟩
    rintro ⟨_, ⟨⟩, h⟩
    exact h
  | cons w works =>
    refine (Deferred.ends_bind _ _ x).trans ⟨?_, ?_⟩
    · rintro ⟨verdicts, hall, hx⟩
      exact ⟨verdicts, (Deferred.ends_all _ _).1 hall, (Deferred.ends_done _ x).1 hx⟩
    · rintro ⟨verdicts, hall, hx⟩
      exact ⟨verdicts, (Deferred.ends_all _ _).2 hall, (Deferred.ends_done _ x).2 hx⟩

/-- **Pieces of which some are put together can end in what each can end in**, those put together in one thing made of
their ends. -/
theorem Deferred.forall₂_ends_grouped (grouped : List α → α) (before works after : List (Deferred α)) (as : List α) :
    List.Forall₂ Ends (before ++ (all works).map grouped :: after) as ↔
      ∃ xs ys zs, List.Forall₂ Ends before xs ∧ List.Forall₂ Ends works ys ∧ List.Forall₂ Ends after zs ∧
        as = xs ++ grouped ys :: zs := by
  constructor
  · intro h
    obtain ⟨xs, rest, rfl, hxs, hrest⟩ := forall₂_append_left h
    cases hrest with
    | cons hw hzs =>
      obtain ⟨ys, hys, hdone⟩ := (ends_bind _ _ _).1 hw
      obtain rfl := (ends_done _ _).1 hdone
      exact ⟨xs, ys, _, hxs, (ends_all _ _).1 hys, hzs, rfl⟩
  · rintro ⟨xs, ys, zs, hxs, hys, hzs, rfl⟩
    have hw : ((all works).map grouped).Ends (grouped ys) :=
      (ends_bind _ _ _).2 ⟨ys, (ends_all _ _).2 hys, (ends_done _ _).2 rfl⟩
    exact List.rel_append hxs (.cons hw hzs)

theorem Deferred.forall₂_ends_append_append (before works after : List (Deferred α)) (as : List α) :
    List.Forall₂ Ends (before ++ (works ++ after)) as ↔
      ∃ xs ys zs, List.Forall₂ Ends before xs ∧ List.Forall₂ Ends works ys ∧ List.Forall₂ Ends after zs ∧
        as = xs ++ (ys ++ zs) := by
  constructor
  · intro h
    obtain ⟨xs, rest, rfl, hxs, hrest⟩ := forall₂_append_left h
    obtain ⟨ys, zs, rfl, hys, hzs⟩ := forall₂_append_left hrest
    exact ⟨xs, ys, zs, hxs, hys, hzs, rfl⟩
  · rintro ⟨xs, ys, zs, hxs, hys, hzs, rfl⟩
    exact List.rel_append hxs (List.rel_append hys hzs)

namespace Launch

variable {refused gathered all : Report} {before works after : List (Deferred (Verdict α))}

theorem isPending_ofUndecided_of_ne_nil (refused : Report) (h : works ≠ []) :
    (ofUndecided refused works).isPending = true := by
  cases works with
  | nil => exact absurd rfl h
  | cons w works => rfl

/-- **With some of the pending candidates put together nothing else can come of it**, up to the order of issues. -/
theorem exists_ends_flat (hperm : (refused.issues ++ gathered.issues).Perm all.issues) {x : Verdict α}
    (hx : (ofUndecided refused
      (before ++ (Deferred.all works).map (Verdict.firstOutput gathered) :: after)).toDeferred.Ends x) :
    ∃ y, (ofUndecided all (before ++ (works ++ after))).toDeferred.Ends y ∧ x.SameButOrder y := by
  obtain ⟨_, hall, rfl⟩ := (ends_ofUndecided _ _ x).1 hx
  obtain ⟨xs, ys, zs, hxs, hys, hzs, rfl⟩ := (Deferred.forall₂_ends_grouped _ _ _ _ _).1 hall
  refine ⟨_, (ends_ofUndecided _ _ _).2 ⟨_, ?_, rfl⟩, Verdict.firstOutput_nested xs ys zs hperm⟩
  exact (Deferred.forall₂_ends_append_append _ _ _ _).2 ⟨xs, ys, zs, hxs, hys, hzs, rfl⟩

/-- **With some of the pending candidates put together everything can still come of it**, up to the order of issues. -/
theorem exists_ends_nested (hperm : (refused.issues ++ gathered.issues).Perm all.issues) {y : Verdict α}
    (hy : (ofUndecided all (before ++ (works ++ after))).toDeferred.Ends y) :
    ∃ x, (ofUndecided refused
      (before ++ (Deferred.all works).map (Verdict.firstOutput gathered) :: after)).toDeferred.Ends x ∧
        x.SameButOrder y := by
  obtain ⟨_, hall, rfl⟩ := (ends_ofUndecided _ _ y).1 hy
  obtain ⟨xs, ys, zs, hxs, hys, hzs, rfl⟩ := (Deferred.forall₂_ends_append_append _ _ _ _).1 hall
  refine ⟨_, (ends_ofUndecided _ _ _).2 ⟨_, ?_, rfl⟩, Verdict.firstOutput_nested xs ys zs hperm⟩
  exact (Deferred.forall₂_ends_grouped _ _ _ _ _).2 ⟨xs, ys, zs, hxs, hys, hzs, rfl⟩

end Launch

theorem Deferred.forall₂_ends_unique {works : List (Deferred α)} (h : ∀ w ∈ works, ∀ x y, w.Ends x → w.Ends y → x = y)
    {xs ys : List α} (hxs : List.Forall₂ Ends works xs) (hys : List.Forall₂ Ends works ys) : xs = ys :=
  eq_of_forall₂ h hxs hys

namespace Check

/-- **A union among the candidates of a union may be replaced by its own candidates.**  `first`, `second` and `third`
are what the candidates before the inner union, its own and those after it come to when all are started one after the
other.  Both unions start the same candidates in the same order, each once, and are pending or not alike; they come to
the same at once when none of the inner candidates is pending.  When few of these are, or nothing else is, the two
settle with the same steps in the same order, to the same output or to the same issues up to their order.  When many
are, numbers that answers draw may be drawn in another order: still the two can settle to the same things, and do when
nothing drawn shows in an answer. -/
theorem union_nested (before inner after : List Check) (v : Value) (path : Path) (counters : Counters)
    (hinner : inner ≠ []) :
    let nested := Check.union (before ++ [Check.union inner] ++ after) v path
    let flat := Check.union (before ++ inner ++ after) v path
    let first := Outcome.startAll (before.map fun c => c v path) counters
    let second := Outcome.startAll (inner.map fun c => c v path) first.counters
    let third := Outcome.startAll (after.map fun c => c v path) second.counters
    let works := fun asked : Run (List (Launch (Verdict Value))) => asked.result.filterMap Launch.work?
    (∃ k, let started := Outcome.startAll (((before ++ inner ++ after).map fun c => c v path).take k) counters
      ((nested.start counters).log = started.log ∧ (nested.start counters).counters = started.counters) ∧
        (flat.start counters).log = started.log ∧ (flat.start counters).counters = started.counters) ∧
    (nested.start counters).result.isPending = (flat.start counters).result.isPending ∧
    (works second = [] → nested.start counters = flat.start counters ∧ nested.settle counters = flat.settle counters) ∧
    ((works second).length ≤ Deferred.few ∨ works first = [] ∧ works third = [] →
      (nested.settle counters).log = (flat.settle counters).log ∧
        (nested.settle counters).counters = (flat.settle counters).counters ∧
        (nested.settle counters).result.SameButOrder (flat.settle counters).result) ∧
    ((∀ w ∈ works first ++ (works second ++ works third), ∀ x y, w.Ends x → w.Ends y → x = y) →
      (nested.settle counters).result.SameButOrder (flat.settle counters).result) ∧
    (∀ x, (nested.start counters).result.toDeferred.Ends x →
      ∃ y, (flat.start counters).result.toDeferred.Ends y ∧ x.SameButOrder y) ∧
    ∀ y, (flat.start counters).result.toDeferred.Ends y →
      ∃ x, (nested.start counters).result.toDeferred.Ends x ∧ x.SameButOrder y := by
  intro nested flat first second third works
  obtain ⟨k, hlog, hcounters⟩ := exists_start_union (before ++ inner ++ after) v path counters
  have hstart := start_union_nested before inner after v path counters hinner
  rw [← List.append_assoc before inner after, List.append_cons before (Check.union inner) after] at hstart
  rcases hstart with heq | ⟨hworks, hnested, hflat⟩
  · -- the two start alike, and nothing else tells them apart
    have hsettle : nested.settle counters = flat.settle counters := Outcome.settle_congr heq
    have hsame : (nested.settle counters).result.SameButOrder (flat.settle counters).result := by
      rw [hsettle]
      exact .refl _
    refine ⟨⟨k, ?_, hlog, hcounters⟩, ?_, fun _ => ⟨heq, hsettle⟩, fun _ => ⟨?_, ?_, hsame⟩, fun _ => hsame,
      fun x hx => ⟨x, ?_, .refl x⟩, fun y hy => ⟨y, ?_, .refl y⟩⟩
    · exact heq ▸ ⟨hlog, hcounters⟩
    · exact heq ▸ rfl
    · rw [hsettle]
    · rw [hsettle]
    · exact heq ▸ hx
    · exact heq ▸ hy
  have hperm : (first.result.flatMap Launch.issues ++ third.result.flatMap Launch.issues ++
      second.result.flatMap Launch.issues).Perm (first.result.flatMap Launch.issues ++
        second.result.flatMap Launch.issues ++ third.result.flatMap Launch.issues) := by
    simpa only [List.append_assoc] using List.perm_append_comm.append_left (first.result.flatMap Launch.issues)
  refine ⟨⟨k, ?_, hlog, hcounters⟩, ?_, fun h => absurd h hworks, fun h => ?_, fun hunique => ?_, fun x hx => ?_,
    fun y hy => ?_⟩
  · rw [← hlog, ← hcounters, hnested, hflat]
    exact ⟨rfl, rfl⟩
  · rw [hnested, hflat, Launch.isPending_ofUndecided_of_ne_nil _ (List.append_ne_nil_of_right_ne_nil _ (by simp)),
      Launch.isPending_ofUndecided_of_ne_nil _ (by simp [hworks])]
  · obtain ⟨joint, hjoint, hjoint'⟩ := Deferred.await_all_grouped
      (Verdict.firstOutput ⟨second.result.flatMap Launch.issues⟩) h third.counters
    rw [Outcome.settle_of_undecided hnested, Outcome.settle_of_undecided hflat, hjoint, hjoint']
    exact ⟨rfl, rfl, Verdict.firstOutput_nested _ _ _ hperm⟩
  · have hx := Outcome.ends_start_settle nested counters
    have hy' := Outcome.ends_start_settle flat counters
    rw [hnested] at hx
    obtain ⟨y, hy, hsame⟩ := Launch.exists_ends_flat hperm hx
    rw [hflat, Launch.ends_ofUndecided] at hy'
    obtain ⟨ys, hys, rfl⟩ := (Launch.ends_ofUndecided _ _ _).1 hy
    obtain ⟨ys', hys', heq⟩ := hy'
    rwa [heq, ← Deferred.forall₂_ends_unique hunique hys hys']
  · rw [hnested] at hx
    rw [hflat]
    exact Launch.exists_ends_flat hperm hx
  · rw [hflat] at hy
    rw [hnested]
    exact Launch.exists_ends_nested hperm hy

/-- Of late candidates the inner ones refuse together, after the outer one and with the issue first that was there at
once: the same three issues, in another order than without the inner union. -/
theorem union_nested_of_late_refusals :
    let late : String → Check := fun words _ path => .pending (.pause (.done (.error (.custom path words))))
    let prompt : Check := fun _ path => .failure (.custom path "prompt")
    let inner : List Check := [late "second", prompt]
    let nested := Check.union ([late "first"] ++ [Check.union inner] ++ []) .null .root
    let flat := Check.union ([late "first"] ++ inner ++ []) .null .root
    inner ≠ [] ∧
      (nested.settle .fresh).result.issues.map Issue.message = ["first", "prompt", "second"] ∧
      (flat.settle .fresh).result.issues.map Issue.message = ["prompt", "first", "second"] ∧
      (nested.settle .fresh).result.SameButOrder (flat.settle .fresh).result := by
  intro late prompt inner nested flat
  have hinner : inner ≠ [] := List.cons_ne_nil _ _
  obtain ⟨-, -, -, hfew, -⟩ := union_nested [late "first"] inner [] .null .root .fresh hinner
  exact ⟨hinner, by decide +kernel, by decide +kernel, (hfew (.inl (by decide))).2.2⟩

/-- Candidates whose outputs are numbers drawn when they come, the outer one later than each of many inner ones: among
a few pieces of work it is polled often, among many seldom, and so it draws before the inner ones or after them. -/
theorem union_nested_of_many_late :
    let count : Validator Value := .default (.ofCheck fun v _ => .success v) ⟨.counted 0 0, .plain⟩
    let late : Nat → Check := fun polls => (count.default ⟨.given (.ok .undefined), ⟨none, .deferred polls⟩⟩).check
    let inner := List.replicate 31 (late 1)
    let nested := Check.union ([late 5] ++ [Check.union inner] ++ []) .undefined .root
    let flat := Check.union ([late 5] ++ inner ++ []) .undefined .root
    (nested.settle .fresh).result.output?.bind Value.number? = some (.ofInt 0) ∧
      (flat.settle .fresh).result.output?.bind Value.number? = some (.ofInt 31) ∧
      ¬ (nested.settle .fresh).result.SameButOrder (flat.settle .fresh).result := by
  intro count late inner nested flat
  have hnested : (nested.settle .fresh).result.output?.bind Value.number? = some (.ofInt 0) := by decide +kernel
  have hflat : (flat.settle .fresh).result.output?.bind Value.number? = some (.ofInt 31) := by decide +kernel
  refine ⟨hnested, hflat, mt Verdict.SameButOrder.output?_eq fun h => ?_⟩
  rw [h, hflat] at hnested
  exact absurd hnested (by decide +kernel)

end Check
end Schemata
