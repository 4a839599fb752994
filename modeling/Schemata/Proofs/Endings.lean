import Schemata.Proofs.Tellings
/-!
# Endings — what a call can settle to

`Plan.Settles` reads off the way of a call what it can settle to, from what the calls on it can settle to: a verdict
made of one for each of several calls, an output of some candidate or the reports of all, what a step makes of an
output, and so on.  Nothing else comes of a validation, whatever is pending in it and in whatever turns that is polled
(`Registries.settles_of_ends`).  So a law about verdicts is proved once for each way, by induction on the calls.
-/
namespace Schemata

variable {α β : Type}

theorem forall₂_append_left {R : α → β → Prop} : ∀ {l l' : List α} {m : List β}, List.Forall₂ R (l ++ l') m →
    ∃ n n', m = n ++ n' ∧ List.Forall₂ R l n ∧ List.Forall₂ R l' n'
  | [], _, m, h => ⟨[], m, rfl, .nil, h⟩
  | _ :: _, _, b :: _, .cons hb h => by
    obtain ⟨n, n', rfl, hn, hn'⟩ := forall₂_append_left h
    exact ⟨b :: n, n', rfl, .cons hb hn, hn'⟩

/-- **Among verdicts there is an output that decides, or all are reports**, which then follow each other. -/
theorem Verdict.firstOutput_cases : ∀ (refused : Report) (verdicts : List (Verdict α)),
    (∃ a, .ok a ∈ verdicts ∧ firstOutput refused verdicts = .ok a) ∨
      ∃ reports : List Report, verdicts = reports.map .error ∧
        firstOutput refused verdicts = .error ⟨refused.issues ++ reports.flatMap Report.issues⟩
  | refused, [] => .inr ⟨[], rfl, by simp [firstOutput]⟩
  | _, .ok a :: _ => .inl ⟨a, List.mem_cons_self, rfl⟩
  | refused, .error r :: rest => by
    rcases firstOutput_cases (refused.merge r) rest with ⟨a, ha, h⟩ | ⟨reports, rfl, h⟩
    · exact .inl ⟨a, List.mem_cons_of_mem _ ha, h⟩
    · exact .inr ⟨r :: reports, rfl, by simpa [firstOutput, Report.merge] using h⟩

section Scan

variable {v : Value} {path : Path}

/-- **Candidates that are asked in order come to an output of one of them, or to the reports of all.** -/
theorem ends_scanCandidates : ∀ (candidates : List Check) {refused : Report} {waiting : List (Deferred (Verdict Value))}
    {x : Verdict Value}, (scanCandidates v path refused waiting candidates).Ends x →
      (∃ out, x = .ok out ∧ ((∃ w ∈ waiting, w.Ends x) ∨ ∃ c ∈ candidates, (c v path).Ends x)) ∨
        ∃ waited reports issues, List.Forall₂ (fun w r => w.Ends (.error r)) waiting waited ∧
          List.Forall₂ (fun c r => (c v path).Ends (.error r)) candidates reports ∧
          issues.Perm (refused.issues ++ (waited ++ reports).flatMap Report.issues) ∧ x = .error ⟨issues⟩
  | [], refused, [], x, h => by
    obtain rfl := (Outcome.ends_ready _ _).1 h
    exact .inr ⟨[], [], refused.issues, .nil, .nil, by simp, rfl⟩
  | [], refused, w :: works, x, h => by
    obtain ⟨verdicts, ⟨log, hruns⟩, hx⟩ := (Deferred.ends_bind _ _ _).1 h
    obtain rfl := (Deferred.ends_done _ _).1 hx
    have hends := (Deferred.runs_all hruns).ends
    rcases Verdict.firstOutput_cases refused verdicts with ⟨out, hout, heq⟩ | ⟨waited, rfl, heq⟩
    · obtain ⟨u, hu, huout⟩ := exists_mem_of_forall₂ (List.Forall₂.flip hends) hout
      exact .inl ⟨out, heq, .inl ⟨u, hu, heq ▸ huout⟩⟩
    · exact .inr ⟨waited, [], _, List.forall₂_map_right_iff.1 hends, .nil, by simp, heq⟩
  | c :: rest, refused, waiting, x, h => by
    obtain ⟨l, hl, h⟩ := (Outcome.ends_bind _ _ _).1 h
    have hc : ∀ {y : Verdict Value}, l.toDeferred.Ends y → (c v path).Ends y := Outcome.ends_of_launch _ hl
    have hrest : ∀ {y : Verdict Value}, (∃ d ∈ rest, (d v path).Ends y) → ∃ d ∈ c :: rest, (d v path).Ends y :=
      fun ⟨d, hd, hy⟩ => ⟨d, List.mem_cons_of_mem c hd, hy⟩
    cases l with
    | ready verdict =>
      have hc := hc ((Deferred.ends_done verdict verdict).2 rfl)
      cases verdict with
      | ok out =>
        obtain rfl := (Outcome.ends_ready _ _).1 h
        exact .inl ⟨out, rfl, .inr ⟨c, List.mem_cons_self, hc⟩⟩
      | error r =>
        rcases ends_scanCandidates rest h with ⟨out, hx, hfrom⟩ | ⟨waited, reports, issues, hw, hr, hperm, hx⟩
        · exact .inl ⟨out, hx, hfrom.imp_right hrest⟩
        · refine .inr ⟨waited, r :: reports, issues, hw, .cons hc hr, hperm.trans (List.perm_iff_count.2 fun i => ?_), hx⟩
          simp only [Report.merge, List.flatMap_append, List.flatMap_cons, List.count_append]
          omega
    | pending work =>
      rcases ends_scanCandidates rest h with ⟨out, hx, ⟨w, hw, hout⟩ | hfrom⟩ |
        ⟨waited, reports, issues, hw, hr, hperm, hx⟩
      · rcases List.mem_append.1 hw with hw | hw
        · exact .inl ⟨out, hx, .inl ⟨w, hw, hout⟩⟩
        · obtain rfl := List.mem_singleton.1 hw
          exact .inl ⟨out, hx, .inr ⟨c, List.mem_cons_self, hc hout⟩⟩
      · exact .inl ⟨out, hx, .inr (hrest hfrom)⟩
      · -- the report of the candidate was counted with those that are waited for
        obtain ⟨before, last, rfl, hbefore, hlast⟩ := forall₂_append_left hw
        obtain ⟨r, _, hwork, hnil, rfl⟩ := List.forall₂_cons_left_iff.1 hlast
        obtain rfl := List.forall₂_nil_left_iff.1 hnil
        exact .inr ⟨before, r :: reports, issues, hbefore, .cons (hc hwork) hr, by simpa using hperm, hx⟩

end Scan

/-- **What a way can settle to**, where `settles` says what every call on it can settle to. -/
def Plan.Settles (settles : Call → Verdict Value → Prop) : Plan → Verdict Value → Prop
  | .leaf o, x => o.Ends x
  | .same c, x => settles c x
  | .every calls decide, x => ∃ verdicts, List.Forall₂ settles calls verdicts ∧ x = decide verdicts
  | .first candidates v path, x =>
    (∃ out, x = .ok out ∧ ∃ s ∈ candidates, settles ⟨s, v, path⟩ x) ∨
      ∃ reports issues, List.Forall₂ (fun s r => settles ⟨s, v, path⟩ (.error r)) candidates reports ∧
        issues.Perm (reports.flatMap Report.issues) ∧ x = .error ⟨issues⟩
  | .supplied supplier path call, x =>
    (∃ v, supplier.Gives v ∧ settles (call v) x) ∨ ∃ reason, x = .error (.custom path (noDefaultText reason))
  | .effect c _ judge, x => (∃ v, settles c (.ok v) ∧ x = judge v) ∨ ∃ r, settles c (.error r) ∧ x = .error r

theorem Plan.settles_of_ends {ask : Call → Outcome (Verdict Value)} {p : Plan} {x : Verdict Value}
    (h : (p.outcome ask).Ends x) : p.Settles (fun c y => (ask c).Ends y) x := by
  cases p with
  | leaf o => exact h
  | same c => exact h
  | every calls decide =>
    obtain ⟨verdicts, hjoin, rfl⟩ := (Outcome.ends_map _ _ _).1 h
    exact ⟨verdicts, List.forall₂_map_left_iff.1 (Outcome.ends_join hjoin), rfl⟩
  | first candidates v path =>
    rcases ends_scanCandidates _ h with ⟨out, hx, ⟨_, hw, -⟩ | ⟨c, hc, hout⟩⟩ |
      ⟨waited, reports, issues, hw, hr, hperm, hx⟩
    · cases hw
    · obtain ⟨s, hs, rfl⟩ := List.mem_map.1 hc
      exact .inl ⟨out, hx, s, hs, hout⟩
    · obtain rfl := List.forall₂_nil_left_iff.1 hw
      exact .inr ⟨reports, issues, List.forall₂_map_left_iff.1 hr, hperm, hx⟩
  | supplied supplier path call =>
    obtain ⟨answer, hanswer, hx⟩ := (Outcome.ends_bind _ _ _).1 h
    cases answer with
    | ok v => exact .inl ⟨v, supplier.gives_of_ends hanswer, hx⟩
    | error reason => exact .inr ⟨reason, (Outcome.ends_ready _ _).1 hx⟩
  | effect c step judge =>
    obtain ⟨verdict, hverdict, hx⟩ := (Outcome.ends_bind _ _ _).1 h
    cases verdict with
    | ok v => exact .inl ⟨v, hverdict, (Step.ends_call _ _ _).1 hx⟩
    | error r => exact .inr ⟨r, hverdict, (Outcome.ends_ready _ _).1 hx⟩

/-- **A call settles to what its way can settle to.** -/
theorem Registries.settles_of_ends {rs : Registries} {c : Call} {x : Verdict Value} (h : (rs.validate c).Ends x) :
    (rs.plan c).Settles (fun d y => (rs.validate d).Ends y) x := by
  rw [validate_eq_plan] at h
  exact Plan.settles_of_ends h

end Schemata
