import Schemata.Proofs.Starts
import Schemata.Proofs.Traces
import Schemata.Validator.Union
/-!
# Likeness — outcomes that do the same and end in related answers

Two outcomes are alike when nobody can tell them apart before their answers come: the same steps are recorded and the
same counters drawn in the same order, both are ready or both are pending, and every poll that finds the one unfinished
finds the other unfinished.  The answers that they end in are related by `R`, which is all that may differ.

Likeness is kept by everything that outcomes are made with, also where many are polled in turn
(`Deferred.Alike.all`), and is seen by a caller as equal logs and related results (`Outcome.Alike.start`,
`Outcome.Alike.settle`).
-/
namespace Schemata

variable {α β α' β' : Type}

namespace Deferred

inductive Alike (R : α → β → Prop) : Deferred α → Deferred β → Prop where
  | done {a : α} {b : β} : R a b → Alike R (.done a) (.done b)
  | record (e : Event) {w : Deferred α} {w' : Deferred β} : Alike R w w' → Alike R (.record e w) (.record e w')
  | draw (counter : Nat) {k : Nat → Deferred α} {k' : Nat → Deferred β} : (∀ n, Alike R (k n) (k' n)) →
      Alike R (.draw counter k) (.draw counter k')
  | pause {w : Deferred α} {w' : Deferred β} : Alike R w w' → Alike R (.pause w) (.pause w')

end Deferred

namespace Turns

inductive Alike (R : α → β → Prop) : Turns α → Turns β → Prop where
  | done {a : α} {b : β} : R a b → Alike R (.done a) (.done b)
  | record (e : Event) {t : Turns α} {t' : Turns β} : Alike R t t' → Alike R (.record e t) (.record e t')
  | draw (counter : Nat) {k : Nat → Turns α} {k' : Nat → Turns β} : (∀ n, Alike R (k n) (k' n)) →
      Alike R (.draw counter k) (.draw counter k')
  | polled (finished : Bool) {t : Turns α} {t' : Turns β} : Alike R t t' →
      Alike R (.polled finished t) (.polled finished t')
  | round {t : Turns α} {t' : Turns β} : Alike R t t' → Alike R (.round t) (.round t')

end Turns

/-- Both are there with related answers, or both are left as work that is alike. -/
inductive Launch.Alike (R : α → β → Prop) : Launch α → Launch β → Prop where
  | ready {a : α} {b : β} : R a b → Launch.Alike R (.ready a) (.ready b)
  | pending {w : Deferred α} {w' : Deferred β} : w.Alike R w' → Launch.Alike R (.pending w) (.pending w')

/-- **Two outcomes do the same and end in related answers.** -/
inductive Outcome.Alike (R : α → β → Prop) : Outcome α → Outcome β → Prop where
  | ready {a : α} {b : β} : R a b → Outcome.Alike R (.ready a) (.ready b)
  | pending {w : Deferred α} {w' : Deferred β} : w.Alike R w' → Outcome.Alike R (.pending w) (.pending w')
  | record (e : Event) {o : Outcome α} {o' : Outcome β} : Outcome.Alike R o o' →
      Outcome.Alike R (.record e o) (.record e o')
  | draw (counter : Nat) {k : Nat → Outcome α} {k' : Nat → Outcome β} : (∀ n, Outcome.Alike R (k n) (k' n)) →
      Outcome.Alike R (.draw counter k) (.draw counter k')

variable {R : α → β → Prop} {S : α' → β' → Prop}

/-! ## Work -/

namespace Deferred.Alike

theorem bind {w : Deferred α} {w' : Deferred β} {f : α → Deferred α'} {f' : β → Deferred β'} (h : w.Alike R w')
    (hf : ∀ a b, R a b → (f a).Alike S (f' b)) : (w.bind f).Alike S (w'.bind f') := by
  induction h with
  | done hab => exact hf _ _ hab
  | record e _ ih => exact .record e ih
  | draw c _ ih => exact .draw c ih
  | pause _ ih => exact .pause ih

theorem map {w : Deferred α} {w' : Deferred β} {f : α → α'} {f' : β → β'} (h : w.Alike R w')
    (hf : ∀ a b, R a b → S (f a) (f' b)) : (w.map f).Alike S (w'.map f') :=
  h.bind fun a b hab => .done (hf a b hab)

theorem after {w : Deferred α} {w' : Deferred β} (h : w.Alike R w') :
    ∀ polls : Nat, (Deferred.after polls w).Alike R (Deferred.after polls w')
  | 0 => h
  | polls + 1 => .pause (after h polls)

theorem refl {R : α → α → Prop} (hR : ∀ a, R a a) : ∀ w : Deferred α, w.Alike R w
  | .done a => .done (hR a)
  | .record e rest => .record e (refl hR rest)
  | .draw c rest => .draw c fun n => refl hR (rest n)
  | .pause rest => .pause (refl hR rest)

/-- **Polled to their ends, both leave the same log and the same counts.** -/
theorem await {w : Deferred α} {w' : Deferred β} (h : w.Alike R w') (counters : Counters) :
    (w.await counters).log = (w'.await counters).log ∧ (w.await counters).counters = (w'.await counters).counters ∧
      R (w.await counters).result (w'.await counters).result := by
  induction h generalizing counters with
  | done hab => exact ⟨rfl, rfl, hab⟩
  | record e _ ih =>
    obtain ⟨hlog, hcounters, hresult⟩ := ih counters
    exact ⟨congrArg (e :: ·) hlog, hcounters, hresult⟩
  | draw c _ ih => exact ih (counters c) (counters.advance c)
  | pause _ ih => exact ih counters

theorem ends {w : Deferred α} {w' : Deferred β} (h : w.Alike R w') {b : β} (hb : w'.Ends b) :
    ∃ a, w.Ends a ∧ R a b := by
  induction h with
  | @done a b' hab =>
    obtain rfl := (ends_done b' b).1 hb
    exact ⟨a, (ends_done a a).2 rfl, hab⟩
  | record e _ ih =>
    obtain ⟨a, ha, hab⟩ := ih ((ends_record e _ b).1 hb)
    exact ⟨a, (ends_record e _ a).2 ha, hab⟩
  | draw c _ ih =>
    obtain ⟨n, hn⟩ := (ends_draw c _ b).1 hb
    obtain ⟨a, ha, hab⟩ := ih n hn
    exact ⟨a, (ends_draw c _ a).2 ⟨n, ha⟩, hab⟩
  | pause _ ih => exact ih hb

end Deferred.Alike

/-! ## Work polled in turn -/

namespace Turns.Alike

theorem map {t : Turns α} {t' : Turns β} {f : α → α'} {f' : β → β'} (h : t.Alike R t')
    (hf : ∀ a b, R a b → S (f a) (f' b)) : (t.map f).Alike S (t'.map f') := by
  induction h with
  | done hab => exact .done (hf _ _ hab)
  | record e _ ih => exact .record e ih
  | draw c _ ih => exact .draw c ih
  | polled finished _ ih => exact .polled finished ih
  | round _ ih => exact .round ih

theorem alone {w : Deferred α} {w' : Deferred β} (h : w.Alike R w') : (Turns.alone w).Alike R (Turns.alone w') := by
  induction h with
  | done hab => exact .polled true (.done hab)
  | record e _ ih => exact .record e ih
  | draw c _ ih => exact .draw c ih
  | pause _ ih => exact .polled false (.round ih)

theorem afterUnfinished {left : α → Turns α'} {left' : β → Turns β'} {both : Turns α → Turns α'}
    {both' : Turns β → Turns β'} (hleft : ∀ a b, R a b → (left a).Alike S (left' b))
    (hboth : ∀ t t', t.Alike R t' → (both t).Alike S (both' t')) {t : Turns α} {t' : Turns β} (h : t.Alike R t') :
    (Turns.afterUnfinished left both t).Alike S (Turns.afterUnfinished left' both' t') := by
  induction h with
  | done hab => exact .round (hleft _ _ hab)
  | record e _ ih => exact .record e ih
  | draw c _ ih => exact .draw c ih
  | polled finished _ ih => exact .polled finished ih
  | round h _ => exact .round (hboth _ _ h)

theorem before {w : Deferred α} {w' : Deferred β} (hw : w.Alike R w') : ∀ {t : Turns α'} {t' : Turns β'}, t.Alike S t' →
    (Turns.before w t).Alike (fun x y => R x.1 y.1 ∧ S x.2 y.2) (Turns.before w' t') := by
  induction hw with
  | done hab => exact fun ht => .polled true (ht.map fun _ _ h => ⟨hab, h⟩)
  | record e _ ih => exact fun ht => .record e (ih ht)
  | draw c _ ih => exact fun ht => .draw c fun n => ih n ht
  | pause hw ih =>
    refine fun ht => .polled false (afterUnfinished (fun x y hxy => ?_) (fun _ _ h => ih h) ht)
    exact (alone hw).map fun _ _ h => ⟨h, hxy⟩

theorem ofList {works : List (Deferred α)} {works' : List (Deferred β)}
    (h : List.Forall₂ (fun w w' => w.Alike R w') works works') :
    (Turns.ofList works).Alike (List.Forall₂ R) (Turns.ofList works') := by
  induction h with
  | nil => exact .done .nil
  | cons hw _ ih => exact (before hw ih).map fun _ _ h => .cons h.1 h.2

theorem byRound {t : Turns α} {t' : Turns β} (h : t.Alike R t') : t.byRound.Alike R t'.byRound := by
  induction h with
  | done hab => exact .done hab
  | record e _ ih => exact .record e ih
  | draw c _ ih => exact .draw c ih
  | polled _ _ ih => exact ih
  | round _ ih => exact .pause ih

theorem byPair {t : Turns α} {t' : Turns β} (h : t.Alike R t') (left : Nat) (again : Bool) :
    (t.byPair left again).Alike R (t'.byPair left again) := by
  induction h generalizing left again with
  | done hab => exact .done hab
  | record e _ ih => exact .record e (ih left again)
  | draw c _ ih => exact .draw c fun n => ih n left again
  | polled finished _ ih =>
    cases finished with
    | true => exact ih (left - 1) false
    | false =>
      simp only [Turns.byPair]
      split
      · exact .pause (ih left false)
      · exact ih left true
  | round _ ih => exact ih left again

end Turns.Alike

/-- **Works that are alike one by one are alike when they are waited for together.** -/
theorem Deferred.Alike.all {works : List (Deferred α)} {works' : List (Deferred β)}
    (h : List.Forall₂ (fun w w' => w.Alike R w') works works') :
    (Deferred.all works).Alike (List.Forall₂ R) (Deferred.all works') := by
  have hturns := Turns.Alike.ofList h
  unfold Deferred.all
  rw [h.length_eq]
  split
  · exact hturns.byRound
  · exact hturns.byPair _ _

/-! ## Outcomes -/

namespace Launch.Alike

theorem toDeferred {l : Launch α} {l' : Launch β} (h : l.Alike R l') : l.toDeferred.Alike R l'.toDeferred := by
  cases h with
  | ready hab => exact .done hab
  | pending hw => exact hw

theorem isPending {l : Launch α} {l' : Launch β} (h : l.Alike R l') : l.isPending = l'.isPending := by
  cases h <;> rfl

theorem mapM_answer? {ls : List (Launch α)} {ls' : List (Launch β)}
    (h : List.Forall₂ (fun l l' => l.Alike R l') ls ls') :
    (∃ as bs, ls.mapM answer? = some as ∧ ls'.mapM answer? = some bs ∧ List.Forall₂ R as bs) ∨
      ls.mapM answer? = none ∧ ls'.mapM answer? = none := by
  induction h with
  | nil => exact .inl ⟨[], [], rfl, rfl, .nil⟩
  | cons hl _ ih =>
    cases hl with
    | pending _ => exact .inr ⟨by simp [answer?], by simp [answer?]⟩
    | @ready a b hab =>
      rcases ih with ⟨as, bs, hs, hs', hR⟩ | ⟨hs, hs'⟩
      · exact .inl ⟨a :: as, b :: bs, by simp [answer?, hs], by simp [answer?, hs'], .cons hab hR⟩
      · exact .inr ⟨by simp [answer?, hs], by simp [answer?, hs']⟩

theorem join {ls : List (Launch α)} {ls' : List (Launch β)} (h : List.Forall₂ (fun l l' => l.Alike R l') ls ls') :
    (Launch.join ls).Alike (List.Forall₂ R) (Launch.join ls') := by
  have hworks : List.Forall₂ (fun w w' => w.Alike R w') (ls.map Launch.toDeferred) (ls'.map Launch.toDeferred) :=
    List.forall₂_map_left_iff.2 (List.forall₂_map_right_iff.2 (h.imp fun _ _ hl => hl.toDeferred))
  unfold Launch.join
  rcases mapM_answer? h with ⟨as, bs, hs, hs', hR⟩ | ⟨hs, hs'⟩
  · rw [hs, hs']
    exact .ready hR
  · rw [hs, hs']
    exact .pending (.all hworks)

end Launch.Alike

namespace Outcome.Alike

theorem refl {R : α → α → Prop} (hR : ∀ a, R a a) : ∀ o : Outcome α, o.Alike R o
  | .ready a => .ready (hR a)
  | .pending w => .pending (.refl hR w)
  | .record e rest => .record e (refl hR rest)
  | .draw c rest => .draw c fun n => refl hR (rest n)

theorem toDeferred {o : Outcome α} {o' : Outcome β} (h : o.Alike R o') : o.toDeferred.Alike R o'.toDeferred := by
  induction h with
  | ready hab => exact .done hab
  | pending hw => exact hw
  | record e _ ih => exact .record e ih
  | draw c _ ih => exact .draw c ih

theorem bind {o : Outcome α} {o' : Outcome β} {f : α → Outcome α'} {f' : β → Outcome β'} (h : o.Alike R o')
    (hf : ∀ a b, R a b → (f a).Alike S (f' b)) : (o.bind f).Alike S (o'.bind f') := by
  induction h with
  | ready hab => exact hf _ _ hab
  | pending hw => exact .pending (hw.bind fun a b hab => (hf a b hab).toDeferred)
  | record e _ ih => exact .record e ih
  | draw c _ ih => exact .draw c ih

theorem map {o : Outcome α} {o' : Outcome β} {f : α → α'} {f' : β → β'} (h : o.Alike R o')
    (hf : ∀ a b, R a b → S (f a) (f' b)) : (o.map f).Alike S (o'.map f') :=
  h.bind fun a b hab => .ready (hf a b hab)

theorem launch {o : Outcome α} {o' : Outcome β} (h : o.Alike R o') :
    o.launch.Alike (fun l l' => l.Alike R l') o'.launch := by
  induction h with
  | ready hab => exact .ready (.ready hab)
  | pending hw => exact .ready (.pending hw)
  | record e _ ih => exact .record e ih
  | draw c _ ih => exact .draw c ih

theorem launchAll {os : List (Outcome α)} {os' : List (Outcome β)}
    (h : List.Forall₂ (fun o o' => o.Alike R o') os os') :
    (Outcome.launchAll os).Alike (List.Forall₂ fun l l' => l.Alike R l') (Outcome.launchAll os') := by
  induction h with
  | nil => exact .ready .nil
  | cons ho _ ih => exact ho.launch.bind fun l l' hl => ih.map fun ls ls' hls => .cons hl hls

/-- **Outcomes that are alike one by one are alike when they are joined.** -/
theorem join {os : List (Outcome α)} {os' : List (Outcome β)} (h : List.Forall₂ (fun o o' => o.Alike R o') os os') :
    (Outcome.join os).Alike (List.Forall₂ R) (Outcome.join os') :=
  (launchAll h).bind fun _ _ hls => Launch.Alike.join hls

theorem call (s : Step) {a : α} {b : β} (h : R a b) : (s.call a).Alike R (s.call b) := by
  refine .record _ ?_
  cases s.timing with
  | immediate => exact .ready h
  | deferred polls => exact .pending ((Deferred.Alike.record _ (.done h)).after polls)
  | varying counter polls => exact .draw counter fun n => .pending ((Deferred.Alike.record _ (.done h)).after (polls n))

/-- **Started, both leave the same log and the same counts**, and both are ready or both are pending. -/
theorem start {o : Outcome α} {o' : Outcome β} (h : o.Alike R o') (counters : Counters) :
    (o.start counters).log = (o'.start counters).log ∧ (o.start counters).counters = (o'.start counters).counters ∧
      (o.start counters).result.Alike R (o'.start counters).result := by
  induction h generalizing counters with
  | ready hab => exact ⟨rfl, rfl, .ready hab⟩
  | pending hw => exact ⟨rfl, rfl, .pending hw⟩
  | record e _ ih =>
    obtain ⟨hlog, hcounters, hresult⟩ := ih counters
    exact ⟨congrArg (e :: ·) hlog, hcounters, hresult⟩
  | draw c _ ih => exact ih (counters c) (counters.advance c)

/-- **Settled, both leave the same log and the same counts**, and related answers. -/
theorem settle {o : Outcome α} {o' : Outcome β} (h : o.Alike R o') (counters : Counters) :
    (o.settle counters).log = (o'.settle counters).log ∧
      (o.settle counters).counters = (o'.settle counters).counters ∧
      R (o.settle counters).result (o'.settle counters).result := h.toDeferred.await counters

theorem ends {o : Outcome α} {o' : Outcome β} (h : o.Alike R o') {b : β} (hb : o'.Ends b) : ∃ a, o.Ends a ∧ R a b :=
  h.toDeferred.ends hb

end Outcome.Alike

/-! ## Outcomes that differ by a function -/

theorem Deferred.Alike.eq_map {f : α → β} {w : Deferred α} {w' : Deferred β} (h : w.Alike R w')
    (hR : ∀ a b, R a b → b = f a) : w' = w.map f := by
  induction h with
  | done hab => rw [hR _ _ hab]; rfl
  | record e _ ih => rw [ih]; rfl
  | draw c _ ih => rw [funext ih]; rfl
  | pause _ ih => rw [ih]; rfl

namespace Outcome

theorem Alike.eq_map {f : α → β} {o : Outcome α} {o' : Outcome β} (h : o.Alike R o')
    (hR : ∀ a b, R a b → b = f a) : o' = o.map f := by
  induction h with
  | ready hab => rw [hR _ _ hab]; rfl
  | pending hw => rw [hw.eq_map hR]; rfl
  | record e _ ih => rw [ih]; rfl
  | draw c _ ih => rw [funext ih]; rfl

theorem alike_map (f : α → β) (o : Outcome α) : o.Alike (fun a b => b = f a) (o.map f) := by
  have h : (o.map id).Alike (fun a b => b = f a) (o.map f) :=
    (Alike.refl (R := Eq) (fun _ => rfl) o).map fun a b hab => congrArg f hab.symm
  rwa [map_id] at h

/-- **Changing each answer before joining is changing all of them after it.** -/
theorem join_map (f : α → β) (os : List (Outcome α)) :
    join (os.map fun o => o.map f) = (join os).map (List.map f) := by
  have hos : List.Forall₂ (fun o o' => o.Alike (fun a b => b = f a) o') os (os.map fun o => o.map f) :=
    List.forall₂_map_right_iff.2 (List.forall₂_same.2 fun o _ => alike_map f o)
  refine (Alike.join hos).eq_map fun as bs h => ?_
  induction h with
  | nil => rfl
  | cons hab _ ih => rw [hab, ih, List.map_cons]

end Outcome
end Schemata
