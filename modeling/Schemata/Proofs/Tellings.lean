import Schemata.Proofs.Courses
/-!
# Tellings — every run is told by a course

A course tells a run of a call when it has the same events before the call returns, is pending when the call is, and has
the same events later, up to the turns in which works that are waited for together are polled.  Whatever a call does, it
takes a course in doing it (`Registries.explained_validate`): a law of all courses is a law of all runs.
-/
namespace Schemata

variable {α β : Type}

/-- **A course tells a run**: the log up to where the call returns, whether it is pending there, the log of awaiting
it, up to the turns in which works are polled, and the answer. -/
structure Course.Tells (p : Course α) (log : List Event) (pending : Bool) (log' : List Event) (a : α) : Prop where
  first : p.first.map Note.event = log
  pending : p.later.isSome = pending
  later : ((p.later.getD []).map Note.event).Perm log'
  answer : p.answer = a

/-- **Every run of the outcome is told by one of the courses.** -/
def Outcome.Explained (S : Course α → Prop) (o : Outcome α) : Prop :=
  ∀ log launch log' a, o.Opens log launch → launch.toDeferred.Runs log' a →
    ∃ p, S p ∧ p.Tells log launch.isPending log' a

namespace Outcome

theorem map_event_map_kept (log : List Event) : (log.map Note.kept).map Note.event = log := by
  simp [Note.kept, Function.comp_def]

theorem explained_takes (o : Outcome α) : o.Explained o.Takes := by
  intro log launch log' a ho hw
  cases launch with
  | ready b =>
    obtain ⟨rfl, rfl⟩ := hw
    exact ⟨_, .ready ho, map_event_map_kept log, rfl, .refl _, rfl⟩
  | pending w => exact ⟨_, .pending ho hw, map_event_map_kept log, rfl, .of_eq (map_event_map_kept log'), rfl⟩

theorem explained_done (a : α) : (Outcome.ready a).Explained fun p => p = .done a := by
  intro log launch log' b ho hw
  obtain ⟨rfl, rfl⟩ := ho
  obtain ⟨rfl, rfl⟩ := hw
  exact ⟨_, rfl, rfl, rfl, .refl _, rfl⟩

theorem Explained.mono {S T : Course α → Prop} {o : Outcome α} (h : o.Explained S) (hST : ∀ p, S p → T p) :
    o.Explained T := by
  intro log launch log' a ho hw
  obtain ⟨p, hp, htells⟩ := h _ _ _ _ ho hw
  exact ⟨p, hST p hp, htells⟩

/-- **A chain is told by one course and then another.** -/
theorem Explained.bind {S : Course α → Prop} {T : Course α → Course β → Prop} {o : Outcome α} {f : α → Outcome β}
    (ho : o.Explained S) (hf : ∀ p, S p → (f p.answer).Explained (T p)) :
    (o.bind f).Explained fun r => ∃ p q, S p ∧ T p q ∧ r = p.andThen q := by
  intro log launch log' b hopen hrun
  rcases opens_bind f o hopen with ⟨l, r, a, rfl, hl, hr⟩ | ⟨w, hl, rfl⟩
  · obtain ⟨p, hp, hfirst, hpending, -, rfl⟩ := ho _ _ _ _ hl ⟨rfl, rfl⟩
    obtain ⟨q, hq, hfirst', hpending', hlater, hanswer⟩ := hf p hp _ _ _ _ hr hrun
    refine ⟨p.andThen q, ⟨p, q, hp, hq, rfl⟩, ?_⟩
    simp only [Course.andThen, Course.later_eq_none hpending]
    exact ⟨by rw [List.map_append, hfirst, hfirst'], hpending', hlater, hanswer⟩
  · obtain ⟨l, r, a, rfl, hw, hcont⟩ := (Deferred.runs_bind _ w log' b).1 hrun
    obtain ⟨p, hp, hfirst, hpending, hlater, rfl⟩ := ho _ _ _ _ hl hw
    obtain ⟨l', r', launch', rfl, hopen', hrun'⟩ := runs_toDeferred _ hcont
    obtain ⟨q, hq, hfirst', -, hlater', hanswer⟩ := hf p hp _ _ _ _ hopen' hrun'
    refine ⟨p.andThen q, ⟨p, q, hp, hq, rfl⟩, ?_⟩
    obtain ⟨awaited, hsome⟩ := Option.isSome_iff_exists.1 hpending
    simp only [hsome, Option.getD_some] at hlater
    simp only [Course.andThen, hsome]
    refine ⟨hfirst, rfl, ?_, hanswer⟩
    simp only [Option.getD_some, List.map_append, hfirst']
    rw [List.append_assoc]
    exact hlater.append ((List.Perm.refl l').append hlater')

theorem Explained.map (f : α → β) {S : Course α → Prop} {o : Outcome α} (h : o.Explained S) :
    (o.map f).Explained fun r => ∃ p, S p ∧ r = p.map f := by
  intro log launch log' b hopen hrun
  rcases opens_map f hopen with ⟨a, ho, rfl⟩ | ⟨w, ho, rfl⟩
  · obtain ⟨rfl, rfl⟩ := hrun
    obtain ⟨p, hp, hfirst, hpending, hlater, rfl⟩ := h _ _ _ _ ho ⟨rfl, rfl⟩
    exact ⟨p.map f, ⟨p, hp, rfl⟩, hfirst, hpending, hlater, rfl⟩
  · obtain ⟨l, r, a, rfl, hw, rfl, rfl⟩ := (Deferred.runs_bind _ w log' b).1 hrun
    obtain ⟨p, hp, hfirst, hpending, hlater, rfl⟩ := h _ _ _ _ ho hw
    exact ⟨p.map f, ⟨p, hp, rfl⟩, hfirst, hpending, by rwa [List.append_nil], rfl⟩

end Outcome

/-! ## Courses side by side -/

namespace Course

/-- The course goes on from the launch: it is pending if that is, and else its answer is there. -/
structure Fits (p : Course α) (launch : Launch α) : Prop where
  pending : p.later.isSome = launch.isPending
  answer : ∀ a, launch = .ready a → p.answer = a

/-- **Courses side by side tell a run of all**, with the logs of awaiting each up to their turns. -/
structure TellAll (ps : List (Course α)) (log : List Event) (launches : List (Launch α)) (log' : List Event)
    (as : List α) : Prop where
  first : (ps.flatMap Course.first).map Note.event = log
  fits : List.Forall₂ Fits ps launches
  later : ((ps.flatMap fun p => p.later.getD []).map Note.event).Perm log'
  answers : ps.map answer = as

namespace TellAll

variable {ps : List (Course α)} {log log' : List Event} {launches : List (Launch α)} {as : List α}

theorem isSome_laterOfAll_iff (h : TellAll ps log launches log' as) :
    (laterOfAll ps).isSome = true ↔ ∃ l ∈ launches, l.isPending = true := by
  have hfits := h.fits
  rw [← not_iff_not, Bool.not_eq_true, Option.isSome_eq_false_iff, Option.isNone_iff_eq_none, laterOfAll_eq_none_iff]
  clear h
  induction hfits with
  | nil => simp
  | @cons p l _ _ hp _ ih =>
    have hhead : p.later = none ↔ ¬ l.isPending = true := by
      rw [← hp.pending, Bool.not_eq_true, Option.isSome_eq_false_iff, Option.isNone_iff_eq_none]
    simp only [List.forall_mem_cons, List.exists_mem_cons_iff, not_or, hhead, ih]

end TellAll

theorem Fits.not_accepts {p : Course (Verdict Value)} {launch : Launch (Verdict Value)} (h : p.Fits launch)
    (hnone : launch.accepted? = none) : ¬ p.Accepts := by
  rintro ⟨hlater, out, hout⟩
  cases launch with
  | ready verdict =>
    rw [h.answer verdict rfl] at hout
    rw [hout] at hnone
    cases hnone
  | pending w =>
    have hpending := h.pending
    rw [hlater] at hpending
    cases hpending

theorem Fits.refusal {p : Course (Verdict Value)} {launch : Launch (Verdict Value)} (h : p.Fits launch) :
    p.refusal = launch.issues := by
  have hpending := h.pending
  unfold Course.refusal
  cases launch with
  | ready verdict =>
    cases hl : p.later with
    | none => exact congrArg Verdict.issues (h.answer verdict rfl)
    | some _ => rw [hl] at hpending; cases hpending
  | pending w =>
    cases hl : p.later with
    | none => rw [hl] at hpending; cases hpending
    | some _ => rfl

theorem map_event_leftBy (c : Call) (p : Course α) : (p.leftBy c).map Note.event = p.first.map Note.event := by
  unfold leftBy
  cases p.later with
  | none => rfl
  | some _ => simp [Note.letGo, Function.comp_def]

end Course

theorem exists_mem_of_forall₂ {R : α → β → Prop} {l : List α} {m : List β} (h : List.Forall₂ R l m) {a : α}
    (ha : a ∈ l) : ∃ b ∈ m, R a b := by
  induction h with
  | nil => cases ha
  | @cons x y _ _ hxy _ ih =>
    rcases List.mem_cons.1 ha with rfl | ha
    · exact ⟨y, List.mem_cons_self, hxy⟩
    · obtain ⟨b, hb, hab⟩ := ih ha
      exact ⟨b, List.mem_cons_of_mem y hb, hab⟩

theorem Interleaved.perm {l r log : List Event} (h : Interleaved l r log) : (l ++ r).Perm log := by
  induction h with
  | nil => exact .refl _
  | left _ ih => exact ih.cons _
  | right _ ih => exact List.perm_middle.trans (ih.cons _)

namespace Deferred

/-- Any pieces of work can be run to their ends. -/
theorem exists_runTogether : ∀ works : List (Deferred α), ∃ log as, RunTogether works log as
  | [] => ⟨[], [], .nil⟩
  | w :: rest => by
    obtain ⟨log, as, h⟩ := exists_runTogether rest
    exact ⟨_, _, .cons (runs_await w .fresh) h (.append _ _)⟩

theorem runTogether_ready : ∀ as : List α, RunTogether ((as.map Launch.ready).map Launch.toDeferred) [] as
  | [] => .nil
  | _ :: as => .cons ⟨rfl, rfl⟩ (runTogether_ready as) .nil

/-- Pieces that are done already run to their answers in their places. -/
theorem runTogether_inPlace : ∀ (launches : List (Launch α)) {log : List Event} {awaited : List α},
    RunTogether (launches.filterMap Launch.work?) log awaited →
      RunTogether (launches.map Launch.toDeferred) log (Launch.inPlace launches awaited)
  | [], _, _, h => by
    cases h
    exact .nil
  | .ready a :: rest, log, awaited, h => .cons ⟨rfl, rfl⟩ (runTogether_inPlace rest h) (.nil_left log)
  | .pending w :: rest, log, awaited, h => by
    rw [List.filterMap_cons_some (rfl : (Launch.pending w).work? = some w)] at h
    cases h with
    | cons hw hrest hi => exact .cons hw (runTogether_inPlace rest hrest) hi

end Deferred

namespace Outcome

/-- **Outcomes that are opened in order and then run side by side take a course each.** -/
theorem explained_all {ι : Type} {f : ι → Outcome α} {S : ι → Course α → Prop} : ∀ {is : List ι},
    (∀ i ∈ is, (f i).Explained (S i)) → ∀ {log : List Event} {launches : List (Launch α)} {log' : List Event}
      {as : List α}, OpensAll (is.map f) log launches →
        Deferred.RunTogether (launches.map Launch.toDeferred) log' as →
          ∃ xs : List (ι × Course α), xs.map Prod.fst = is ∧ (∀ x ∈ xs, S x.1 x.2) ∧
            Course.TellAll (xs.map Prod.snd) log launches log' as
  | [], _, _, _, _, _, hopen, hrun => by
    cases hopen
    cases hrun
    exact ⟨[], rfl, nofun, rfl, .nil, .refl _, rfl⟩
  | i :: is, h, _, _, _, _, hopen, hrun => by
    cases hopen with
    | cons ho hopen =>
      cases hrun with
      | cons hw hrun hi =>
        obtain ⟨p, hp, hfirst, hpending, hlater, rfl⟩ := h i List.mem_cons_self _ _ _ _ ho hw
        obtain ⟨xs, rfl, hxs, htell⟩ := explained_all (fun j hj => h j (List.mem_cons_of_mem i hj)) hopen hrun
        refine ⟨(i, p) :: xs, rfl, List.forall_mem_cons.2 ⟨hp, hxs⟩, ?_, .cons ⟨hpending, ?_⟩ htell.fits, ?_, ?_⟩
        · simp [hfirst, ← htell.first]
        · rintro a rfl
          exact hw.2
        · simpa using (hlater.append htell.later).trans hi.perm
        · simp [← htell.answers]

theorem Explained.join {ι : Type} {ask : ι → Outcome α} {S : ι → Course α → Prop} {is : List ι}
    (h : ∀ i ∈ is, (ask i).Explained (S i)) : (Outcome.join (is.map ask)).Explained fun r =>
      ∃ xs : List (ι × Course α), xs.map Prod.fst = is ∧ (∀ x ∈ xs, S x.1 x.2) ∧ r = .all (xs.map Prod.snd) := by
  intro log launch log' as hopen hrun
  obtain ⟨launches, hopen, hlaunch⟩ := opens_join hopen
  have key : Deferred.RunTogether (launches.map Launch.toDeferred) log' as ∧
      (launch.isPending = true ↔ ∃ l ∈ launches, l.isPending = true) := by
    rcases hlaunch with ⟨bs, rfl, rfl⟩ | ⟨hp, rfl⟩
    · obtain ⟨rfl, rfl⟩ := hrun
      refine ⟨Deferred.runTogether_ready as, nofun, ?_⟩
      rintro ⟨l, hl, hp⟩
      obtain ⟨a, -, rfl⟩ := List.mem_map.1 hl
      cases hp
    · exact ⟨Deferred.runs_all hrun, fun _ => hp, fun _ => rfl⟩
  obtain ⟨xs, hxs, hS, htell⟩ := explained_all h hopen key.1
  refine ⟨_, ⟨xs, hxs, hS, rfl⟩, htell.first, ?_, ?_, htell.answers⟩
  · exact Bool.eq_iff_iff.2 (htell.isSome_laterOfAll_iff.trans key.2.symm)
  · simpa [Course.all] using htell.later

end Outcome

/-! ## Candidates -/

/-- What candidates come to none of which accepts at once is what the pending ones come to side by side. -/
theorem Launch.runs_ofUndecided {refused : Report} {works : List (Deferred (Verdict α))} {log : List Event}
    {a : Verdict α}
    (h : (Launch.ofUndecided refused works).toDeferred.Runs log a) :
    ∃ awaited, Deferred.RunTogether works log awaited ∧ a = Verdict.firstOutput refused awaited := by
  cases works with
  | nil =>
    obtain ⟨rfl, rfl⟩ := h
    exact ⟨[], .nil, rfl⟩
  | cons w works =>
    obtain ⟨l, r, awaited, rfl, hall, rfl, rfl⟩ := (Deferred.runs_bind _ _ log a).1 h
    exact ⟨awaited, by rw [List.append_nil]; exact Deferred.runs_all hall, rfl⟩

/-- What the courses of pending pieces come to is what these come to side by side. -/
theorem Course.filterMap_awaited? {ps : List (Course α)} {launches : List (Launch α)}
    (hfits : List.Forall₂ Fits ps launches) : ∀ {log : List Event} {awaited : List α},
    Deferred.RunTogether (launches.filterMap Launch.work?) log awaited →
      ps.map answer = Launch.inPlace launches awaited → ps.filterMap awaited? = awaited := by
  induction hfits with
  | nil =>
    intro log awaited hrun _
    cases hrun
    rfl
  | @cons p l ps launches hp _ ih =>
    intro log awaited hrun hanswers
    have hpending := hp.pending
    cases l with
    | ready b =>
      obtain ⟨-, hrest⟩ := List.cons.inj hanswers
      have hnone : p.awaited? = none := by rw [awaited?, later_eq_none hpending, Option.map_none]
      rw [List.filterMap_cons_none hnone]
      exact ih hrun hrest
    | pending w =>
      rw [List.filterMap_cons_some (rfl : (Launch.pending w).work? = some w)] at hrun
      cases hrun with
      | @cons _ _ _ _ _ a as _ hrun _ =>
        obtain ⟨ha, hrest⟩ := List.cons.inj hanswers
        obtain ⟨later, hsome⟩ := Option.isSome_iff_exists.1 hpending
        have hawaited : p.awaited? = some a := by rw [awaited?, hsome, Option.map_some, ha]
        rw [List.filterMap_cons_some hawaited, ih hrun hrest]

section Scan

variable {ask : Call → Outcome (Verdict Value)} {S : Call → Course (Verdict Value) → Prop} {c : Call}
  {candidates : List Schema} {v : Value} {path : Path}

/-- A candidate accepts at once, after others that take their courses and do not. -/
def Course.AcceptedAmong (S : Call → Course (Verdict Value) → Prop) (c : Call) (candidates : List Schema) (v : Value)
    (path : Path) (r : Course (Verdict Value)) : Prop :=
  ∃ (xs : List (Schema × Course (Verdict Value))) (s : Schema) (rest : List Schema) (q : Course (Verdict Value)),
    candidates = xs.map Prod.fst ++ s :: rest ∧ (∀ x ∈ xs, S ⟨x.1, v, path⟩ x.2) ∧ (∀ x ∈ xs, ¬ x.2.Accepts) ∧
      S ⟨s, v, path⟩ q ∧ q.Accepts ∧ r = .accepted c (xs.map Prod.snd) q

/-- All candidates take their courses, and none accepts at once. -/
def Course.UndecidedAmong (S : Call → Course (Verdict Value) → Prop) (candidates : List Schema) (v : Value)
    (path : Path) (r : Course (Verdict Value)) : Prop :=
  ∃ xs : List (Schema × Course (Verdict Value)), candidates = xs.map Prod.fst ∧ (∀ x ∈ xs, S ⟨x.1, v, path⟩ x.2) ∧
    (∀ x ∈ xs, ¬ x.2.Accepts) ∧ r = .undecided (xs.map Prod.snd)

theorem Course.TellAll.not_accepts {xs : List (Schema × Course (Verdict Value))} {log log' : List Event}
    {launches : List (Launch (Verdict Value))} {as : List (Verdict Value)}
    (h : TellAll (xs.map Prod.snd) log launches log' as) (hnone : ∀ l ∈ launches, l.accepted? = none) :
    ∀ x ∈ xs, ¬ x.2.Accepts := by
  intro x hx
  obtain ⟨l, hl, hfits⟩ := exists_mem_of_forall₂ h.fits (List.mem_map_of_mem hx)
  exact hfits.not_accepts (hnone l hl)

theorem Course.TellAll.refusals {ps : List (Course (Verdict Value))} {log log' : List Event}
    {launches : List (Launch (Verdict Value))} {as : List (Verdict Value)} (h : TellAll ps log launches log' as) :
    ps.flatMap refusal = launches.flatMap Launch.issues := by
  have hfits := h.fits
  clear h
  induction hfits with
  | nil => rfl
  | cons hp _ ih => rw [List.flatMap_cons, List.flatMap_cons, hp.refusal, ih]

theorem explained_scanCandidates (h : ∀ s ∈ candidates, (ask ⟨s, v, path⟩).Explained (S ⟨s, v, path⟩)) :
    (scanCandidates v path .empty [] (candidates.map fun s v path => ask ⟨s, v, path⟩)).Explained fun r =>
      Course.AcceptedAmong S c candidates v path r ∨ Course.UndecidedAmong S candidates v path r := by
  intro log launch log' a hopen hrun
  have hscan := scanOpens_of_opens _ hopen
  generalize hchecks : (candidates.map fun s v path => ask ⟨s, v, path⟩) = checks at hscan
  cases hscan with
  | @accepted before after check l r launches out hall hnone hd =>
    obtain ⟨ss, tail, rfl, rfl, htail⟩ := List.map_eq_append_iff.1 hchecks
    obtain ⟨s, rest, rfl, rfl, -⟩ := List.map_eq_cons_iff.1 htail
    obtain ⟨rfl, rfl⟩ := hrun
    obtain ⟨q, hq, hfirst, hpending, -, hanswer⟩ := h s (by simp) _ _ _ _ hd ⟨rfl, rfl⟩
    obtain ⟨dropped, answers, htogether⟩ := Deferred.exists_runTogether (launches.map Launch.toDeferred)
    rw [List.map_map] at hall
    obtain ⟨xs, rfl, hxs, htell⟩ := Outcome.explained_all (f := fun s => ask ⟨s, v, path⟩)
      (fun t ht => h t (List.mem_append_left _ ht)) hall htogether
    have haccepts : q.Accepts := ⟨Course.later_eq_none hpending, out, hanswer⟩
    refine ⟨_, .inl ⟨xs, s, rest, q, rfl, hxs, htell.not_accepts hnone, hq, haccepts, rfl⟩, ?_, rfl, .refl _, hanswer⟩
    simp only [Course.accepted, List.map_append, List.map_flatMap, Course.map_event_leftBy, hfirst, ← htell.first]
  | @undecided _ _ launches hall hnone =>
    obtain ⟨awaited, htogether, rfl⟩ := Launch.runs_ofUndecided hrun
    subst hchecks
    rw [List.map_map] at hall
    obtain ⟨xs, rfl, hxs, htell⟩ := Outcome.explained_all (f := fun s => ask ⟨s, v, path⟩) h hall
      (Deferred.runTogether_inPlace launches htogether)
    refine ⟨_, .inr ⟨xs, rfl, hxs, htell.not_accepts hnone, rfl⟩, htell.first, ?_, ?_, ?_⟩
    · exact Bool.eq_iff_iff.2 (htell.isSome_laterOfAll_iff.trans (Launch.isPending_ofUndecided _ _).symm)
    · simpa [Course.undecided] using htell.later
    · simp only [Course.undecided, htell.refusals, Course.filterMap_awaited? htell.fits htogether htell.answers]
      simp [Report.merge, Report.empty]

end Scan

namespace Registries

/-- **Whatever a call does, it takes a course in doing it.** -/
theorem explained_validate (rs : Registries) (c : Call) : (rs.validate c).Explained (rs.Takes c) := by
  induction c using rs.call_induction with
  | step c ih =>
    have made : ∀ d, (rs.plan c).Makes d → (rs.validate d).Explained (rs.Takes d) := fun d hd => ih d (calls_of_makes hd)
    rw [validate_eq_plan]
    cases hplan : rs.plan c with
    | leaf o => exact o.explained_takes.mono fun p hp => .leaf hplan hp
    | same d =>
      rw [hplan] at made
      exact (made d rfl).mono fun p hp => .same hplan hp
    | every calls decide =>
      rw [hplan] at made
      refine ((Outcome.Explained.join made).map decide).mono ?_
      rintro r ⟨p, ⟨xs, rfl, hxs, rfl⟩, rfl⟩
      exact .every hplan hxs
    | first candidates v path =>
      rw [hplan] at made
      refine (explained_scanCandidates (c := c) fun s hs => made _ ⟨s, hs, rfl⟩).mono ?_
      rintro r (⟨xs, s, rest, q, rfl, hxs, hnone, hq, hacc, rfl⟩ | ⟨xs, rfl, hxs, hnone, rfl⟩)
      · exact .accepted hplan hxs hnone hq hacc
      · exact .undecided hplan hxs hnone
    | supplied supplier path call =>
      rw [hplan] at made
      -- what comes after the supplier has answered
      let after : Course (Except String Value) → Course (Verdict Value) → Prop := fun p q =>
        (∃ v, p.answer = .ok v ∧ rs.Takes (call v) q) ∨
          ∃ reason, p.answer = .error reason ∧ q = .done (.error (.custom path (noDefaultText reason)))
      have hafter : ∀ p, supplier.call.Takes p →
          (Supplier.continue path (fun v => rs.validate (call v)) p.answer).Explained (after p) := by
        intro p hp
        cases hanswer : p.answer with
        | ok v =>
          have hgives : supplier.Gives v := supplier.gives_of_ends (hanswer ▸ hp.ends)
          exact (made (call v) ⟨v, hgives, rfl⟩).mono fun q hq => .inl ⟨v, hanswer, hq⟩
        | error reason => exact (Outcome.explained_done _).mono fun q hq => .inr ⟨reason, hanswer, hq⟩
      refine (supplier.call.explained_takes.bind hafter).mono ?_
      rintro r ⟨p, q, hp, ⟨v, hanswer, hq⟩ | ⟨reason, hanswer, rfl⟩, rfl⟩
      · exact .supplied hplan hp hanswer hq
      · rw [Course.andThen_done]
        exact .unsupplied hplan hp hanswer
    | effect d step judge =>
      rw [hplan] at made
      let after : Course (Verdict Value) → Course (Verdict Value) → Prop := fun p q =>
        (∃ v, p.answer = .ok v ∧ (step.call (judge v)).Takes q) ∨ ∃ r, p.answer = .error r ∧ q = .done (.error r)
      refine ((made d rfl).bind (T := after) fun p _ => ?_).mono ?_
      · cases hanswer : p.answer with
        | ok v => exact (Outcome.explained_takes _).mono fun q hq => .inl ⟨v, hanswer, hq⟩
        | error r => exact (Outcome.explained_done _).mono fun q hq => .inr ⟨r, hanswer, hq⟩
      · rintro r ⟨p, q, hp, ⟨v, hanswer, hq⟩ | ⟨report, hanswer, rfl⟩, rfl⟩
        · exact .effect hplan hp hanswer hq
        · rw [Course.andThen_done, ← hanswer]
          exact .refused hplan hp hanswer

end Registries

end Schemata
