import Schemata.Proofs.Union
/-!
# Openings — every way in which asking can go

`Outcome.start` follows the one opening that the counters decide.  `Outcome.Opens` forgets the counters, as
`Deferred.Runs` does for work: it holds of every log and every launch that some counters could bring about.  Awaiting an
outcome is opening it and then running what was launched (`Outcome.runs_toDeferred`).
-/
namespace Schemata

variable {α β : Type}

namespace Outcome

/-- **Asking can record a log and come to a launch**, with some numbers for its draws. -/
def Opens : Outcome α → List Event → Launch α → Prop
  | .ready a, log, launch => log = [] ∧ launch = .ready a
  | .pending w, log, launch => log = [] ∧ launch = .pending w
  | .record e rest, log, launch => ∃ later, log = e :: later ∧ rest.Opens later launch
  | .draw _ rest, log, launch => ∃ n, (rest n).Opens log launch

/-- Outcomes are opened one after the other. -/
inductive OpensAll : List (Outcome α) → List Event → List (Launch α) → Prop where
  | nil : OpensAll [] [] []
  | cons {o : Outcome α} {rest : List (Outcome α)} {l r : List Event} {launch : Launch α} {launches : List (Launch α)} :
      o.Opens l launch → OpensAll rest r launches → OpensAll (o :: rest) (l ++ r) (launch :: launches)

/-- **What is started goes one of its openings.** -/
theorem opens_start : ∀ (o : Outcome α) (counters : Counters),
    o.Opens (o.start counters).log (o.start counters).result
  | .ready _, _ => ⟨rfl, rfl⟩
  | .pending _, _ => ⟨rfl, rfl⟩
  | .record _ rest, counters => ⟨_, rfl, opens_start rest counters⟩
  | .draw c rest, counters => ⟨counters c, opens_start (rest (counters c)) (counters.advance c)⟩

/-- **An outcome that is awaited is opened, and then what was launched is run.** -/
theorem runs_toDeferred : ∀ (o : Outcome α) {log : List Event} {a : α}, o.toDeferred.Runs log a →
    ∃ l r launch, log = l ++ r ∧ o.Opens l launch ∧ launch.toDeferred.Runs r a
  | .ready a, log, _, h => ⟨[], log, .ready a, rfl, ⟨rfl, rfl⟩, h⟩
  | .pending w, log, _, h => ⟨[], log, .pending w, rfl, ⟨rfl, rfl⟩, h⟩
  | .record e rest, _, _, ⟨later, hlog, h⟩ => by
    obtain ⟨l, r, launch, rfl, ho, hr⟩ := runs_toDeferred rest h
    exact ⟨e :: l, r, launch, hlog, ⟨l, rfl, ho⟩, hr⟩
  | .draw _ rest, _, _, ⟨n, h⟩ => by
    obtain ⟨l, r, launch, rfl, ho, hr⟩ := runs_toDeferred (rest n) h
    exact ⟨l, r, launch, rfl, ⟨n, ho⟩, hr⟩

/-- **A chain opens with its first part**, and with the second as well if the answer of the first is there. -/
theorem opens_bind (f : α → Outcome β) : ∀ (o : Outcome α) {log : List Event} {launch : Launch β},
    (o.bind f).Opens log launch →
      (∃ l r a, log = l ++ r ∧ o.Opens l (.ready a) ∧ (f a).Opens r launch) ∨
        ∃ w, o.Opens log (.pending w) ∧ launch = .pending (w.bind fun a => (f a).toDeferred)
  | .ready a, log, _, h => .inl ⟨[], log, a, rfl, ⟨rfl, rfl⟩, h⟩
  | .pending w, _, _, h => .inr ⟨w, ⟨h.1, rfl⟩, h.2⟩
  | .record e rest, _, _, ⟨later, hlog, h⟩ => by
    rcases opens_bind f rest h with ⟨l, r, a, rfl, ho, hf⟩ | ⟨w, ho, hlaunch⟩
    · exact .inl ⟨e :: l, r, a, hlog, ⟨l, rfl, ho⟩, hf⟩
    · exact .inr ⟨w, ⟨later, hlog, ho⟩, hlaunch⟩
  | .draw _ rest, _, _, ⟨n, h⟩ => by
    rcases opens_bind f (rest n) h with ⟨l, r, a, rfl, ho, hf⟩ | ⟨w, ho, hlaunch⟩
    · exact .inl ⟨l, r, a, rfl, ⟨n, ho⟩, hf⟩
    · exact .inr ⟨w, ⟨n, ho⟩, hlaunch⟩

theorem opens_launch_bind (f : Launch α → Outcome β) : ∀ (o : Outcome α) {log : List Event} {launch : Launch β},
    (o.launch.bind f).Opens log launch → ∃ l r x, log = l ++ r ∧ o.Opens l x ∧ (f x).Opens r launch
  | .ready a, log, _, h => ⟨[], log, .ready a, rfl, ⟨rfl, rfl⟩, h⟩
  | .pending w, log, _, h => ⟨[], log, .pending w, rfl, ⟨rfl, rfl⟩, h⟩
  | .record e rest, _, _, ⟨later, hlog, h⟩ => by
    obtain ⟨l, r, x, rfl, ho, hf⟩ := opens_launch_bind f rest h
    exact ⟨e :: l, r, x, hlog, ⟨l, rfl, ho⟩, hf⟩
  | .draw _ rest, _, _, ⟨n, h⟩ => by
    obtain ⟨l, r, x, rfl, ho, hf⟩ := opens_launch_bind f (rest n) h
    exact ⟨l, r, x, rfl, ⟨n, ho⟩, hf⟩

theorem opens_map (f : α → β) {o : Outcome α} {log : List Event} {launch : Launch β} (h : (o.map f).Opens log launch) :
    (∃ a, o.Opens log (.ready a) ∧ launch = .ready (f a)) ∨
      ∃ w, o.Opens log (.pending w) ∧ launch = .pending (w.map f) := by
  rcases opens_bind _ o h with ⟨l, r, a, rfl, ho, rfl, rfl⟩ | ⟨w, ho, rfl⟩
  · exact .inl ⟨a, by rwa [List.append_nil], rfl⟩
  · exact .inr ⟨w, ho, rfl⟩

theorem opens_launchAll : ∀ (os : List (Outcome α)) {log : List Event} {launch : Launch (List (Launch α))},
    (launchAll os).Opens log launch → ∃ launches, launch = .ready launches ∧ OpensAll os log launches
  | [], _, _, ⟨hlog, hlaunch⟩ => ⟨[], hlaunch, hlog ▸ .nil⟩
  | o :: rest, _, _, h => by
    obtain ⟨l, r, x, rfl, ho, h⟩ := opens_launch_bind _ o h
    rcases opens_map _ h with ⟨xs, hrest, hx⟩ | ⟨w, hrest, -⟩
    · obtain ⟨launches, hl, hall⟩ := opens_launchAll rest hrest
      obtain rfl := Launch.ready.inj hl
      exact ⟨x :: xs, hx, .cons ho hall⟩
    · obtain ⟨launches, hl, -⟩ := opens_launchAll rest hrest
      cases hl

end Outcome

namespace Launch

theorem join_eq_of_mapM : ∀ (launches : List (Launch α)),
    (∃ as, launches = as.map .ready ∧ launches.mapM answer? = some as) ∨
      (∃ l ∈ launches, l.isPending = true) ∧ launches.mapM answer? = none
  | [] => .inl ⟨[], rfl, rfl⟩
  | .pending w :: rest => .inr ⟨⟨_, List.mem_cons_self, rfl⟩, by simp [answer?]⟩
  | .ready a :: rest => by
    rcases join_eq_of_mapM rest with ⟨as, rfl, hm⟩ | ⟨⟨l, hl, hp⟩, hm⟩
    · exact .inl ⟨a :: as, rfl, by simp [answer?, hm]⟩
    · exact .inr ⟨⟨l, List.mem_cons_of_mem _ hl, hp⟩, by simp [answer?, hm]⟩

/-- **Launches are joined at once when all are ready, and wait for all when one is pending.** -/
theorem join_cases (launches : List (Launch α)) :
    (∃ as, launches = as.map .ready ∧ join launches = .ready as) ∨
      (∃ l ∈ launches, l.isPending = true) ∧ join launches = .pending (.all (launches.map toDeferred)) := by
  unfold join
  rcases join_eq_of_mapM launches with ⟨as, hl, hm⟩ | ⟨hl, hm⟩
  · exact .inl ⟨as, hl, by rw [hm]⟩
  · exact .inr ⟨hl, by rw [hm]⟩

end Launch

theorem Outcome.opens_join {os : List (Outcome α)} {log : List Event} {launch : Launch (List α)}
    (h : (Outcome.join os).Opens log launch) : ∃ launches, OpensAll os log launches ∧
      ((∃ as, launches = as.map .ready ∧ launch = .ready as) ∨
        (∃ l ∈ launches, l.isPending = true) ∧ launch = .pending (.all (launches.map Launch.toDeferred))) := by
  rcases opens_bind _ _ h with ⟨l, r, launches, rfl, ho, hjoin⟩ | ⟨w, ho, -⟩
  · obtain ⟨_, hl, hall⟩ := opens_launchAll os ho
    obtain rfl := Launch.ready.inj hl
    refine ⟨launches, ?_⟩
    rcases Launch.join_cases launches with ⟨as, has, heq⟩ | ⟨hp, heq⟩
    · rw [heq] at hjoin
      obtain ⟨rfl, rfl⟩ := hjoin
      exact ⟨by rwa [List.append_nil], .inl ⟨as, has, rfl⟩⟩
    · rw [heq] at hjoin
      obtain ⟨rfl, rfl⟩ := hjoin
      exact ⟨by rwa [List.append_nil], .inr ⟨hp, rfl⟩⟩
  · obtain ⟨_, hl, _⟩ := opens_launchAll os ho
    cases hl

/-- What asking candidates can record and come to: they are opened up to the first that accepts at once, or all of
them. -/
inductive ScanOpens (v : Value) (path : Path) (refused : Report) (waiting : List (Deferred (Verdict Value))) :
    List Check → List Event → Launch (Verdict Value) → Prop where
  | accepted {before after : List Check} {c : Check} {l r : List Event} {launches : List (Launch (Verdict Value))}
      {out : Value} : Outcome.OpensAll (before.map fun c => c v path) l launches →
      (∀ x ∈ launches, x.accepted? = none) → (c v path).Opens r (.ready (.ok out)) →
      ScanOpens v path refused waiting (before ++ c :: after) (l ++ r) (.ready (.ok out))
  | undecided {candidates : List Check} {log : List Event} {launches : List (Launch (Verdict Value))} :
      Outcome.OpensAll (candidates.map fun c => c v path) log launches → (∀ x ∈ launches, x.accepted? = none) →
      ScanOpens v path refused waiting candidates log (.ofUndecided (refused.merge ⟨launches.flatMap Launch.issues⟩)
        (waiting ++ launches.filterMap Launch.work?))

section Scan

variable {v : Value} {path : Path}

/-- A candidate that does not accept at once joins those before it. -/
theorem ScanOpens.cons {refused : Report} {waiting : List (Deferred (Verdict Value))} {c : Check} {rest : List Check}
    {l r : List Event} {x launch : Launch (Verdict Value)} (hc : (c v path).Opens l x) (hnone : x.accepted? = none)
    (h : ScanOpens v path (refused.merge ⟨x.issues⟩) (waiting ++ x.work?.toList) rest r launch) :
    ScanOpens v path refused waiting (c :: rest) (l ++ r) launch := by
  cases h with
  | @accepted before after d l' r' launches out hall hnone' hd =>
    rw [← List.append_assoc]
    have hall' : Outcome.OpensAll ((c :: before).map fun c => c v path) (l ++ l') (x :: launches) := .cons hc hall
    exact .accepted hall' (List.forall_mem_cons.2 ⟨hnone, hnone'⟩) hd
  | @undecided _ _ launches hall hnone' =>
    have hrefused : (refused.merge ⟨x.issues⟩).merge ⟨launches.flatMap Launch.issues⟩ =
        refused.merge ⟨(x :: launches).flatMap Launch.issues⟩ := by simp [Report.merge]
    have hwaiting : waiting ++ x.work?.toList ++ launches.filterMap Launch.work? =
        waiting ++ (x :: launches).filterMap Launch.work? := by
      cases hx : x.work? <;> simp [hx]
    rw [hrefused, hwaiting]
    exact .undecided (.cons hc hall) (List.forall_mem_cons.2 ⟨hnone, hnone'⟩)

theorem scanOpens_of_opens : ∀ (candidates : List Check) {refused : Report} {waiting : List (Deferred (Verdict Value))}
    {log : List Event} {launch : Launch (Verdict Value)},
    (scanCandidates v path refused waiting candidates).Opens log launch →
      ScanOpens v path refused waiting candidates log launch
  | [], refused, waiting, log, launch, h => by
    have key : log = [] ∧ launch = .ofUndecided refused waiting := by cases waiting <;> exact h
    obtain ⟨rfl, rfl⟩ := key
    have hall : Outcome.OpensAll (([] : List Check).map fun c => c v path) [] [] := .nil
    have hnil : ScanOpens v path refused waiting [] [] _ := .undecided hall fun _ hx => nomatch hx
    simpa [Report.merge] using hnil
  | c :: rest, refused, waiting, _, launch, h => by
    obtain ⟨l, r, x, rfl, hc, h⟩ := Outcome.opens_launch_bind _ _ h
    cases x with
    | ready verdict =>
      cases verdict with
      | ok out =>
        obtain ⟨rfl, rfl⟩ := h
        have hall : Outcome.OpensAll (([] : List Check).map fun c => c v path) [] [] := .nil
        have hfirst : ScanOpens v path refused waiting ([] ++ c :: rest) ([] ++ l) (.ready (.ok out)) :=
          .accepted hall (fun _ hx => nomatch hx) hc
        simpa using hfirst
      | error report =>
        refine .cons hc rfl ?_
        simpa [Launch.work?, Launch.issues, Verdict.issues] using scanOpens_of_opens rest h
    | pending w =>
      refine .cons hc rfl ?_
      simpa [Launch.work?, Launch.issues, Report.merge] using scanOpens_of_opens rest h

end Scan

end Schemata
