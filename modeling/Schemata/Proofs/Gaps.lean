import Schemata.Proofs.Members
import Schemata.Proofs.Rounds
/-!
# Gaps — answers that are there already

Among outcomes that are joined some may be there already, all with one answer: fields of an object that have nothing to
ask, say.  Asking for them records nothing and draws no number, and awaiting them takes no poll.  So the others are
joined as they are alone, and what is joined is what they come to with the answer put back into the gaps
(`Outcome.sameRuns_join_putBack`).
-/
namespace Schemata

variable {α β ι : Type}

/-- Puts one thing back at all the places that were left out of a list. -/
def putBack (kept : ι → Bool) (a : α) : List ι → List α → List α
  | [], as => as
  | i :: l, [] => if kept i then [] else a :: putBack kept a l []
  | i :: l, b :: bs => if kept i then b :: putBack kept a l bs else a :: putBack kept a l (b :: bs)

section PutBack

variable {kept : ι → Bool} {a : α} {i : ι}

theorem putBack_of_kept (h : kept i = true) (l : List ι) (b : α) (bs : List α) :
    putBack kept a (i :: l) (b :: bs) = b :: putBack kept a l bs := if_pos h

theorem putBack_of_not_kept (h : kept i = false) (l : List ι) (as : List α) :
    putBack kept a (i :: l) as = a :: putBack kept a l as := by
  cases as <;> rw [putBack, h, if_neg Bool.false_ne_true]

theorem putBack_nil_of_kept (h : kept i = true) (l : List ι) : putBack kept a (i :: l) [] = [] := if_pos h

theorem map_putBack (f : α → β) : ∀ (l : List ι) (as : List α),
    (putBack kept a l as).map f = putBack kept (f a) l (as.map f)
  | [], _ => rfl
  | i :: l, as => by
    cases h : kept i with
    | false => rw [putBack_of_not_kept h, putBack_of_not_kept h, List.map_cons, map_putBack f l as]
    | true =>
      cases as with
      | nil => rw [putBack_nil_of_kept h, List.map_nil, putBack_nil_of_kept h]
      | cons b bs => rw [putBack_of_kept h, List.map_cons, List.map_cons, putBack_of_kept h, map_putBack f l bs]

theorem exists_mem_putBack (P : α → Prop) (ha : ¬ P a) : ∀ (l : List ι) (as : List α),
    (∃ b ∈ putBack kept a l as, P b) ↔ ∃ b ∈ as, P b
  | [], _ => Iff.rfl
  | i :: l, as => by
    cases h : kept i with
    | false => simp [putBack_of_not_kept h, ha, exists_mem_putBack P ha l as]
    | true =>
      cases as with
      | nil => rw [putBack_nil_of_kept h]
      | cons b bs => simp [putBack_of_kept h, exists_mem_putBack P ha l bs]

/-- What is put back counts for nothing where nothing comes of it. -/
theorem flatMap_putBack {f : α → List β} (ha : f a = []) : ∀ (l : List ι) (as : List α),
    (putBack kept a l as).flatMap f = as.flatMap f
  | [], _ => rfl
  | i :: l, as => by
    cases h : kept i with
    | false => rw [putBack_of_not_kept h, List.flatMap_cons, ha, List.nil_append, flatMap_putBack ha l as]
    | true =>
      cases as with
      | nil => rw [putBack_nil_of_kept h]
      | cons b bs => rw [putBack_of_kept h, List.flatMap_cons, List.flatMap_cons, flatMap_putBack ha l bs]

theorem filterMap_zip_putBack {g : ι × α → Option β} (ha : ∀ i, g (i, a) = none) : ∀ (l : List ι) (as : List α),
    (l.zip (putBack kept a l as)).filterMap g = ((l.filter kept).zip as).filterMap g
  | [], _ => rfl
  | i :: l, as => by
    cases h : kept i with
    | false =>
      rw [putBack_of_not_kept h, List.zip_cons_cons, List.filterMap_cons_none (ha i), filterMap_zip_putBack ha l as,
        List.filter_cons_of_neg (by simp [h])]
    | true =>
      rw [List.filter_cons_of_pos h]
      cases as with
      | nil => rw [putBack_nil_of_kept h, List.zip_nil_right, List.zip_nil_right]
      | cons b bs =>
        rw [putBack_of_kept h, List.zip_cons_cons, List.zip_cons_cons, List.filterMap_cons, List.filterMap_cons,
          filterMap_zip_putBack ha l bs]

end PutBack

/-! ## Joining outcomes of which some are there already -/

namespace Outcome

/-- **Two outcomes that cannot be told apart** by asking for them and awaiting them: the same is recorded and the same
numbers are drawn before they are ready or pending, which they are alike, and they settle alike. -/
structure SameRuns (o o' : Outcome α) : Prop where
  log (counters : Counters) : (o.start counters).log = (o'.start counters).log
  counters (counters : Counters) : (o.start counters).counters = (o'.start counters).counters
  pending (counters : Counters) : (o.start counters).result.isPending = (o'.start counters).result.isPending
  settle (counters : Counters) : o.settle counters = o'.settle counters

end Outcome

theorem Deferred.rounds_putBack {kept : ι → Bool} (a : α) : ∀ (l : List ι) (works : List (Deferred α)),
    rounds (putBack kept (.done a) l works) = (rounds works).map (putBack kept a l)
  | [], works => (map_id _).symm
  | i :: l, works => by
    cases h : kept i with
    | false =>
      have hdone : ∀ w : Deferred (List α), ((Deferred.done a).beside w).map (fun r => r.1 :: r.2) =
          w.map (a :: ·) := fun w => map_map _ _ w
      rw [putBack_of_not_kept h, rounds_cons, hdone, rounds_putBack a l works, map_map]
      congr 1
      funext as
      rw [putBack_of_not_kept h]
    | true =>
      cases works with
      | nil =>
        rw [putBack_nil_of_kept h, show rounds ([] : List (Deferred α)) = .done [] from rfl, map_done,
          putBack_nil_of_kept h]
      | cons w works =>
        rw [putBack_of_kept h, rounds_cons, rounds_cons, rounds_putBack a l works, beside_map, map_map, map_map]
        congr 1
        funext r
        rw [putBack_of_kept h]
        rfl

namespace Outcome

theorem startAll_putBack (kept : ι → Bool) (a : α) (o : ι → Outcome α) : ∀ (l : List ι) (counters : Counters),
    startAll (l.map fun i => if kept i then o i else .ready a) counters =
      (startAll ((l.filter kept).map o) counters).map (putBack kept (.ready a) l)
  | [], _ => rfl
  | i :: l, counters => by
    cases h : kept i with
    | false =>
      have ih := startAll_putBack kept a o l counters
      rw [List.map_cons, h, if_neg Bool.false_ne_true, List.filter_cons_of_neg (by simp [h]), startAll]
      simp only [start, ih, Run.map, putBack_of_not_kept h, List.nil_append]
    | true =>
      have ih := startAll_putBack kept a o l ((o i).start counters).counters
      rw [List.map_cons, h, if_pos rfl, List.filter_cons_of_pos h, List.map_cons, startAll, startAll, ih]
      simp only [Run.map, putBack_of_kept h]

/-- **Joining outcomes of which some are there with one answer** is joining the others, and putting the answer back. -/
theorem sameRuns_join_putBack {kept : ι → Bool} {a : α} (o : ι → Outcome α) (l : List ι) {f g : List α → β}
    (hfg : ∀ as, f (putBack kept a l as) = g as) :
    SameRuns ((join (l.map fun i => if kept i then o i else .ready a)).map f)
      ((join ((l.filter kept).map o)).map g) := by
  have hstart : ∀ counters, startAll (l.map fun i => if kept i then o i else .ready a) counters =
      (startAll ((l.filter kept).map o) counters).map (putBack kept (.ready a) l) := startAll_putBack kept a o l
  refine ⟨fun counters => ?_, fun counters => ?_, fun counters => ?_, fun counters => ?_⟩
  · rw [(start_map f _ counters).1, (start_map g _ counters).1, (start_join _ counters).1, (start_join _ counters).1,
      hstart]
    rfl
  · rw [(start_map f _ counters).2, (start_map g _ counters).2, (start_join _ counters).2, (start_join _ counters).2,
      hstart]
    rfl
  · rw [isPending_start_map, isPending_start_map, Bool.eq_iff_iff, isPending_start_join, isPending_start_join, hstart]
    have hready : ¬ (Launch.ready a).isPending = true := Bool.false_ne_true
    exact exists_mem_putBack (fun launch : Launch α => launch.isPending = true) hready l _
  · have hjoin : (join (l.map fun i => if kept i then o i else .ready a)).settle counters =
        ((join ((l.filter kept).map o)).settle counters).map (putBack kept a l) := by
      have hworks : ∀ ls : List (Launch α), (Deferred.rounds ((putBack kept (.ready a) l ls).map Launch.toDeferred)) =
          (Deferred.rounds (ls.map Launch.toDeferred)).map (putBack kept a l) := fun ls => by
        rw [map_putBack]
        exact Deferred.rounds_putBack a l _
      rw [settle_join, settle_join, hstart, Deferred.await_all, Deferred.await_all, ← Deferred.rounds,
        ← Deferred.rounds, Run.map, hworks, Deferred.await_map]
      rfl
    rw [settle_map, settle_map, hjoin]
    simp only [Run.map, hfg]

end Outcome
end Schemata
