import Schemata.Proofs.Origins
import Schemata.Proofs.Timing
/-!
# Certainty — pure schemas come to one verdict

Where users' steps and checks are pure, every way in which a call can go is pending at the same point and ends in the
same verdict, whatever numbers are drawn and whatever is polled before what (`Registries.exists_sure`).  A verdict alone
would not do: a union takes one that is there before one that is not, so which candidate decides depends on which are
pending.  That is why an outcome is sure of both (`Outcome.Sure`).
-/
namespace Schemata

variable {α β : Type}

namespace Outcome

/-- **However asking goes, it is pending or not as foreseen**, and what comes of it is the one answer. -/
def Sure (o : Outcome α) (pending : Bool) (a : α) : Prop :=
  ∀ log launch, o.Opens log launch → launch.isPending = pending ∧ ∀ b, launch.toDeferred.Ends b → b = a

variable {o : Outcome α} {pending : Bool} {a : α}

theorem Sure.certain (h : o.Sure pending a) : o.Certain a := fun b hb => by
  obtain ⟨log, hruns⟩ := hb
  obtain ⟨_, r, launch, -, hopens, hruns⟩ := runs_toDeferred o hruns
  exact (h _ launch hopens).2 b ⟨r, hruns⟩

theorem sure_ready (a : α) : (Outcome.ready a).Sure false a := by
  rintro _ _ ⟨-, rfl⟩
  exact ⟨rfl, fun b hb => (Deferred.ends_done a b).1 hb⟩

theorem sure_pending {w : Deferred α} (h : ∀ b, w.Ends b → b = a) : (Outcome.pending w).Sure true a := by
  rintro _ _ ⟨-, rfl⟩
  exact ⟨rfl, h⟩

theorem Sure.record (e : Event) (h : o.Sure pending a) : (Outcome.record e o).Sure pending a := by
  rintro _ launch ⟨later, -, hopens⟩
  exact h later launch hopens

theorem sure_draw (counter : Nat) {rest : Nat → Outcome α} (h : ∀ n, (rest n).Sure pending a) :
    (Outcome.draw counter rest).Sure pending a := by
  rintro log launch ⟨n, hopens⟩
  exact h n log launch hopens

theorem Sure.bind {f : α → Outcome β} {pending' : Bool} {b : β} (ho : o.Sure pending a) (hf : (f a).Sure pending' b) :
    (o.bind f).Sure (pending || pending') b := by
  intro log launch hopens
  rcases opens_bind f o hopens with ⟨l, r, a', rfl, ho', hf'⟩ | ⟨w, ho', rfl⟩
  · obtain ⟨rfl, hends⟩ := ho l _ ho'
    obtain rfl := hends a' ((Deferred.ends_done a' a').2 rfl)
    exact hf r launch hf'
  · obtain ⟨rfl, hends⟩ := ho log _ ho'
    refine ⟨rfl, fun b' hb' => ?_⟩
    obtain ⟨a', ha', hb'⟩ := (Deferred.ends_bind _ w b').1 hb'
    obtain rfl := hends a' ha'
    exact hf.certain b' hb'

theorem Sure.map (f : α → β) (ho : o.Sure pending a) : (o.map f).Sure pending (f a) := by
  have h := ho.bind (sure_ready (f a)) (f := fun a => .ready (f a))
  rwa [Bool.or_false] at h

/-- **What is sure of its launch goes on with it**: with the answer, or with work that ends in nothing else. -/
theorem Sure.launch_bind {f : Launch α → Outcome β} {pending' : Bool} {b : β} (ho : o.Sure pending a)
    (hf : ∀ launch : Launch α, launch.isPending = pending → (∀ a', launch.toDeferred.Ends a' → a' = a) →
      (f launch).Sure pending' b) : (o.launch.bind f).Sure pending' b := by
  intro log launch hopens
  obtain ⟨l, r, x, rfl, ho', hf'⟩ := opens_launch_bind f o hopens
  obtain ⟨hpending, hends⟩ := ho l x ho'
  exact hf x hpending hends r launch hf'

end Outcome

theorem Deferred.eq_of_forall₂_ends {works : List (Deferred α)} {as bs : List α}
    (hworks : List.Forall₂ (fun w a => ∀ b, Deferred.Ends w b → b = a) works as)
    (hends : List.Forall₂ Deferred.Ends works bs) : bs = as :=
  (eq_of_forall₂ (fun _ _ _ b hw hb => (hw b hb).symm) hworks hends).symm

/-- The launch is pending or not as foreseen, and what comes of it is the one answer. -/
def Launch.Sure (l : Launch α) (x : Bool × α) : Prop := l.isPending = x.1 ∧ ∀ b, l.toDeferred.Ends b → b = x.2

namespace Outcome

theorem OpensAll.sure {os : List (Outcome α)} {log : List Event} {launches : List (Launch α)} {xs : List (Bool × α)}
    (h : OpensAll os log launches) (hos : List.Forall₂ (fun o x => o.Sure x.1 x.2) os xs) :
    List.Forall₂ Launch.Sure launches xs := by
  induction h generalizing xs with
  | nil =>
    cases hos
    exact .nil
  | cons ho _ ih =>
    cases hos with
    | cons hx hxs => exact .cons (hx _ _ ho) (ih hxs)

/-- **Joined outcomes are sure if each of them is**, and pending if one of them is. -/
theorem Sure.join {os : List (Outcome α)} {xs : List (Bool × α)}
    (hos : List.Forall₂ (fun o x => o.Sure x.1 x.2) os xs) :
    (Outcome.join os).Sure (xs.any Prod.fst) (xs.map Prod.snd) := by
  intro log launch hopens
  obtain ⟨launches, hall, hcases⟩ := opens_join hopens
  have hsure := hall.sure hos
  have hworks : List.Forall₂ (fun w a => ∀ b, Deferred.Ends w b → b = a) (launches.map Launch.toDeferred)
      (xs.map Prod.snd) :=
    List.forall₂_map_left_iff.2 (List.forall₂_map_right_iff.2 (hsure.imp fun _ _ h => h.2))
  have hpending : launches.any Launch.isPending = xs.any Prod.fst := by
    clear hall hcases hopens hos hworks
    induction hsure with
    | nil => rfl
    | cons hl _ ih => rw [List.any_cons, List.any_cons, hl.1, ih]
  rcases hcases with ⟨as, rfl, rfl⟩ | ⟨hp, rfl⟩
  · refine ⟨?_, fun b hb => ?_⟩
    · rw [← hpending, List.any_map]
      exact (List.any_eq_false.2 fun _ _ => Bool.false_ne_true).symm
    · obtain rfl := (Deferred.ends_done as b).1 hb
      refine Deferred.eq_of_forall₂_ends hworks ?_
      simp only [List.map_map, List.forall₂_map_left_iff, List.forall₂_same]
      exact fun a _ => (Deferred.ends_done a a).2 rfl
  · refine ⟨?_, fun b hb => Deferred.eq_of_forall₂_ends hworks ((Deferred.ends_all _ b).1 hb)⟩
    rw [← hpending]
    exact (List.any_eq_true.2 hp).symm

theorem exists_sure_join {os : List (Outcome α)} (h : ∀ o ∈ os, ∃ pending a, o.Sure pending a) :
    ∃ pending as, (Outcome.join os).Sure pending as := by
  have hxs : ∃ xs : List (Bool × α), List.Forall₂ (fun o x => o.Sure x.1 x.2) os xs := by
    induction os with
    | nil => exact ⟨[], .nil⟩
    | cons o rest ih =>
      obtain ⟨pending, a, ho⟩ := h o List.mem_cons_self
      obtain ⟨xs, hxs⟩ := ih fun o' ho' => h o' (List.mem_cons_of_mem o ho')
      exact ⟨(pending, a) :: xs, .cons ho hxs⟩
  obtain ⟨xs, hxs⟩ := hxs
  exact ⟨_, _, Sure.join hxs⟩

/-- **Candidates that are sure are sure together**: which of them accept at once is foreseen, and of which there is work
left. -/
theorem exists_sure_scanCandidates {v : Value} {path : Path} : ∀ (candidates : List Check),
    (∀ c ∈ candidates, ∃ pending x, (c v path).Sure pending x) → ∀ (refused : Report) (awaited : List (Verdict Value)),
      ∃ pending x, ∀ waiting, List.Forall₂ (fun w y => ∀ b, Deferred.Ends w b → b = y) waiting awaited →
        (scanCandidates v path refused waiting candidates).Sure pending x
  | [], _, refused, [] => by
    refine ⟨false, .error refused, fun waiting hwaiting => ?_⟩
    cases hwaiting
    exact sure_ready _
  | [], _, refused, y :: awaited => by
    refine ⟨true, Verdict.firstOutput refused (y :: awaited), fun waiting hwaiting => ?_⟩
    have hends : ∀ b, ((Deferred.all waiting).map (Verdict.firstOutput refused)).Ends b →
        b = Verdict.firstOutput refused (y :: awaited) := fun b hb => by
      obtain ⟨bs, hbs, hb⟩ := (Deferred.ends_bind _ _ b).1 hb
      rw [← Deferred.eq_of_forall₂_ends hwaiting ((Deferred.ends_all waiting bs).1 hbs)]
      exact (Deferred.ends_done _ b).1 hb
    cases hwaiting
    exact sure_pending hends
  | c :: rest, h, refused, awaited => by
    obtain ⟨pending, x, hc⟩ := h c List.mem_cons_self
    have ih := exists_sure_scanCandidates rest fun d hd => h d (List.mem_cons_of_mem c hd)
    have ready : ∀ l : Launch (Verdict Value), l.isPending = false → (∀ y, l.toDeferred.Ends y → y = x) →
        l = .ready x := by
      intro l hl hends
      cases l with
      | ready y => rw [hends y ((Deferred.ends_done y y).2 rfl)]
      | pending w => cases hl
    cases pending with
    | true =>
      obtain ⟨pending, z, hrest⟩ := ih refused (awaited ++ [x])
      refine ⟨pending, z, fun waiting hwaiting => hc.launch_bind fun l hl hends => ?_⟩
      cases l with
      | ready y => cases hl
      | pending w => exact hrest _ (List.rel_append hwaiting (.cons hends .nil))
    | false =>
      cases x with
      | ok out =>
        refine ⟨false, .ok out, fun waiting hwaiting => hc.launch_bind fun l hl hends => ?_⟩
        obtain rfl := ready l hl hends
        exact sure_ready _
      | error r =>
        obtain ⟨pending, z, hrest⟩ := ih (refused.merge r) awaited
        refine ⟨pending, z, fun waiting hwaiting => hc.launch_bind fun l hl hends => ?_⟩
        obtain rfl := ready l hl hends
        exact hrest waiting hwaiting

end Outcome

theorem Step.exists_sure_call (s : Step) (a : α) : ∃ pending, (s.call a).Sure pending a := by
  have hpolls : ∀ polls b, (s.answerAfter polls a).Ends b → b = a := fun polls b hb => by
    simpa [Step.answerAfter] using hb
  unfold Step.call
  cases s.timing with
  | immediate => exact ⟨false, (Outcome.sure_ready a).record _⟩
  | deferred polls => exact ⟨true, (Outcome.sure_pending (hpolls polls)).record _⟩
  | varying counter polls =>
    exact ⟨true, (Outcome.sure_draw counter fun n => Outcome.sure_pending (hpolls (polls n))).record _⟩

/-! ## Pure schemas -/

/-- A node whose outcome depends on the value and the place alone: no counter, and no check of a user's that comes to
more than one verdict. -/
def Schema.Pure : Schema → Prop
  | .default _ supplier => ∃ answer, supplier.source = .given answer
  | .custom check => ∀ v path, ∃ pending verdict, (check v path).Sure pending verdict
  | _ => True

namespace Registries

variable {rs : Registries}

/-- **A call of a pure schema is pending or not as foreseen and comes to one verdict.** -/
theorem exists_sure (c : Call) : (∀ t, rs.Reaches c.schema t → t.Pure) →
    ∃ pending verdict, (rs.validate c).Sure pending verdict := by
  induction c using rs.call_induction with
  | step c ih =>
    intro pure
    have asked : ∀ d, (rs.plan c).Makes d → ∃ pending verdict, (rs.validate d).Sure pending verdict := fun d hd =>
      ih d (calls_of_makes hd) fun t ht => pure t (reaches_of_calls (calls_of_makes hd) ht)
    have hsuits := rs.plan_suits c
    rw [validate_eq_plan]
    cases hplan : rs.plan c with
    | leaf o =>
      rw [hplan] at hsuits
      rcases hsuits with ⟨verdict, rfl⟩ | ⟨check, hschema, rfl⟩
      · exact ⟨false, verdict, Outcome.sure_ready verdict⟩
      · exact (hschema ▸ pure c.schema (.here _) : Schema.Pure (.custom check)) c.value c.path
    | same d =>
      rw [hplan] at asked
      exact asked d rfl
    | every calls decide =>
      rw [hplan] at asked
      obtain ⟨pending, verdicts, h⟩ := Outcome.exists_sure_join (List.forall_mem_map.2 asked)
      exact ⟨pending, decide verdicts, h.map decide⟩
    | first candidates v path =>
      rw [hplan] at asked
      have hcandidates : ∀ check ∈ candidates.map fun s v path => rs.validate ⟨s, v, path⟩,
          ∃ pending verdict, (check v path).Sure pending verdict := fun check hcheck => by
        obtain ⟨s, hs, rfl⟩ := List.mem_map.1 hcheck
        exact asked ⟨s, v, path⟩ ⟨s, hs, rfl⟩
      obtain ⟨pending, verdict, h⟩ := Outcome.exists_sure_scanCandidates _ hcandidates .empty []
      exact ⟨pending, verdict, h [] .nil⟩
    | supplied supplier path call =>
      rw [hplan] at asked hsuits
      obtain ⟨inner, hschema⟩ := hsuits
      obtain ⟨answer, hsource⟩ := (hschema ▸ pure c.schema (.here _) : Schema.Pure (.default inner supplier))
      obtain ⟨late, hcall⟩ := supplier.step.exists_sure_call answer
      have hsupplied : supplier.call.Sure late answer := by rwa [Supplier.call, hsource]
      cases answer with
      | ok v =>
        have hgives : supplier.Gives v := by rw [Supplier.Gives, hsource]
        obtain ⟨pending, verdict, h⟩ := asked (call v) ⟨v, hgives, rfl⟩
        exact ⟨_, verdict, hsupplied.bind h⟩
      | error reason => exact ⟨_, _, hsupplied.bind (Outcome.sure_ready _)⟩
    | effect d step judge =>
      rw [hplan] at asked
      obtain ⟨pending, verdict, h⟩ := asked d rfl
      cases verdict with
      | ok v =>
        obtain ⟨late, hcall⟩ := step.exists_sure_call (judge v)
        exact ⟨_, _, h.bind hcall⟩
      | error r => exact ⟨_, _, h.bind (Outcome.sure_ready _)⟩

/-- **What a pure schema comes to does not hang on counters**, nor whether it is pending. -/
theorem settle_check_of_pure {s : Schema} (pure : ∀ t, rs.Reaches s t → t.Pure) (v : Value) (path : Path)
    (counters counters' : Counters) :
    ((rs.check s v path).settle counters).result = ((rs.check s v path).settle counters').result ∧
      ((rs.check s v path).start counters).result.isPending =
        ((rs.check s v path).start counters').result.isPending := by
  obtain ⟨pending, verdict, h⟩ := exists_sure ⟨s, v, path⟩ pure
  have hpending : ∀ counters, ((rs.check s v path).start counters).result.isPending = pending := fun counters =>
    (h _ _ (Outcome.opens_start _ counters)).1
  exact ⟨(h.certain.settle counters).trans (h.certain.settle counters').symm,
    (hpending counters).trans (hpending counters').symm⟩

/-! ## Calls that are certain -/

theorem certain_of_taken {c : Call} {x : Verdict Value} (hplan : rs.plan c = .leaf (.ready x)) :
    (rs.validate c).Certain x := by
  rw [validate_eq_plan, hplan]
  exact Outcome.certain_ready x

theorem certain_of_same {c d : Call} {x : Verdict Value} (hplan : rs.plan c = .same d)
    (h : (rs.validate d).Certain x) : (rs.validate c).Certain x := by
  rw [validate_eq_plan, hplan]
  exact h

theorem certain_of_every {c : Call} {calls : List Call} {decide : List (Verdict Value) → Verdict Value}
    {verdicts : List (Verdict Value)} (hplan : rs.plan c = .every calls decide)
    (h : List.Forall₂ (fun d x => (rs.validate d).Certain x) calls verdicts) :
    (rs.validate c).Certain (decide verdicts) := by
  rw [validate_eq_plan, hplan]
  exact (Outcome.Certain.join (List.forall₂_map_left_iff.2 h)).bind (Outcome.certain_ready _)

theorem certain_of_supplied {inner : Schema} {supplier : Supplier} {v : Value} {path : Path} {x : Verdict Value}
    (given : ∃ answer, supplier.source = .given answer) (hgives : supplier.Gives v)
    (h : (rs.validate ⟨inner, v, path⟩).Certain x) :
    (rs.validate ⟨.default inner supplier, .undefined, path⟩).Certain x := by
  obtain ⟨answer, hsource⟩ := given
  have hanswer : supplier.call.Certain (.ok v) := by
    rw [Supplier.Gives, hsource] at hgives
    rw [Supplier.call, hsource, hgives]
    exact supplier.step.certain_call _
  rw [validate_eq_plan]
  exact hanswer.bind h

theorem certain_of_effect {c d : Call} {step : Step} {judge : Value → Verdict Value} {v : Value}
    (hplan : rs.plan c = .effect d step judge) (h : (rs.validate d).Certain (.ok v)) :
    (rs.validate c).Certain (judge v) := by
  rw [validate_eq_plan, hplan]
  exact h.bind (step.certain_call _)

theorem certain_array {rules : Rules LengthRule} {item : Schema} {items outputs : List Value} {path : Path}
    (hrules : rules.violations path items.length = [])
    (h : List.Forall₂ (fun d out => (rs.validate d).Certain (.ok out)) (items.mapIdx fun i u => ⟨item, u, path.index i⟩)
      outputs) : (rs.validate ⟨.array rules item, .array items, path⟩).Certain (.ok (.array outputs)) := by
  have hcertain := certain_of_every (c := ⟨.array rules item, .array items, path⟩) rfl (List.forall₂_map_right_iff.2 h)
  beta_reduce at hcertain
  rwa [Verdict.gather_map_ok hrules] at hcertain

theorem certain_object {shape : Shape Schema} {entries out : Entries Value} {outputs : List Value} {path : Path}
    (hassemble : (shape.map rs.check).assemble path entries (outputs.map .ok) = .ok out)
    (h : List.Forall₂ (fun d out => (rs.validate d).Certain (.ok out)) (shape.fields.map (fieldCall entries path))
      outputs) : (rs.validate ⟨.object shape, .object entries, path⟩).Certain (.ok (.object out)) := by
  have hcertain := certain_of_every (c := ⟨.object shape, .object entries, path⟩) rfl (List.forall₂_map_right_iff.2 h)
  beta_reduce at hcertain
  rwa [hassemble] at hcertain

end Registries
end Schemata
