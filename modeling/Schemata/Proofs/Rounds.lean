import Schemata.Proofs.Starts
/-!
# Rounds — pieces of work polled side by side

Polled round by round, pieces of work do what two and two of them do side by side (`Deferred.beside`,
`Deferred.rounds_cons`).  How they are put into pairs does not matter (`Deferred.beside_assoc`): so some of them may be
put together to one piece first, and a round of the whole is still a poll of each of them, in the same order
(`Deferred.rounds_append`, `Deferred.rounds_grouped`).
-/
namespace Schemata

variable {α β γ α' β' γ' δ : Type}

namespace Deferred

/-- Work that is polled in a round after something unfinished: `left` says how to go on when it is done, `both` when it
is not. -/
def afterUnfinished (left : β → Deferred γ) (both : Deferred β → Deferred γ) : Deferred β → Deferred γ
  | .done b => .pause (left b)
  | .record e rest => .record e (afterUnfinished left both rest)
  | .draw c rest => .draw c fun n => afterUnfinished left both (rest n)
  | .pause rest => .pause (both rest)

/-- **Two pieces of work in rounds**, the first before the second in each. -/
def beside : Deferred α → Deferred β → Deferred (α × β)
  | .done a => fun v => v.map (Prod.mk a)
  | .record e rest => fun v => .record e (beside rest v)
  | .draw c rest => fun v => .draw c fun n => beside (rest n) v
  | .pause rest => afterUnfinished (fun b => rest.map fun a => (a, b)) (beside rest)

/-! ## Putting into pairs -/

theorem afterUnfinished_congr {left left' : β → Deferred γ} {both both' : Deferred β → Deferred γ}
    (hleft : ∀ b, left b = left' b) (hboth : ∀ w, both w = both' w) (w : Deferred β) :
    afterUnfinished left both w = afterUnfinished left' both' w := by
  rw [funext hleft, funext hboth]

theorem afterUnfinished_map (f : α → β) (left : β → Deferred γ) (both : Deferred β → Deferred γ) : ∀ w : Deferred α,
    afterUnfinished left both (w.map f) = afterUnfinished (fun a => left (f a)) (fun w => both (w.map f)) w
  | .done _ => rfl
  | .record e rest => congrArg (Deferred.record e) (afterUnfinished_map f left both rest)
  | .draw c rest => congrArg (Deferred.draw c) (funext fun n => afterUnfinished_map f left both (rest n))
  | .pause _ => rfl

theorem map_afterUnfinished (f : γ → δ) (left : β → Deferred γ) (both : Deferred β → Deferred γ) : ∀ w : Deferred β,
    (afterUnfinished left both w).map f = afterUnfinished (fun b => (left b).map f) (fun w => (both w).map f) w
  | .done _ => rfl
  | .record e rest => congrArg (Deferred.record e) (map_afterUnfinished f left both rest)
  | .draw c rest => congrArg (Deferred.draw c) (funext fun n => map_afterUnfinished f left both (rest n))
  | .pause _ => rfl

/-- Of what is polled after two unfinished pieces, the poll is the same. -/
theorem afterUnfinished_afterUnfinished (left : β → Deferred γ) (both : Deferred β → Deferred γ)
    (left' : γ → Deferred δ) (both' : Deferred γ → Deferred δ) : ∀ w : Deferred β,
    afterUnfinished left' both' (afterUnfinished left both w) =
      afterUnfinished (fun b => both' (left b)) (fun w => both' (both w)) w
  | .done _ => rfl
  | .record e rest => congrArg (Deferred.record e) (afterUnfinished_afterUnfinished left both left' both' rest)
  | .draw c rest =>
    congrArg (Deferred.draw c) (funext fun n => afterUnfinished_afterUnfinished left both left' both' (rest n))
  | .pause _ => rfl

theorem map_beside_map (f : α → α') (g : β → β') : ∀ (u : Deferred α) (v : Deferred β),
    (u.map f).beside (v.map g) = (u.beside v).map (Prod.map f g)
  | .done a, v => by
    simp only [map_done, beside, map_map]
    rfl
  | .record e rest, v => congrArg (Deferred.record e) (map_beside_map f g rest v)
  | .draw c rest, v => congrArg (Deferred.draw c) (funext fun n => map_beside_map f g (rest n) v)
  | .pause rest, v => by
    refine (afterUnfinished_map g _ _ v).trans (Eq.trans ?_ (map_afterUnfinished (Prod.map f g) _ _ v).symm)
    have hleft : ∀ b, (rest.map f).map (fun a => (a, g b)) = (rest.map fun a => (a, b)).map (Prod.map f g) := fun b =>
      (map_map f _ rest).trans (map_map (fun a => (a, b)) (Prod.map f g) rest).symm
    exact afterUnfinished_congr hleft (fun w => map_beside_map f g rest w) v

theorem map_beside (f : α → α') (u : Deferred α) (v : Deferred β) :
    (u.map f).beside v = (u.beside v).map (Prod.map f id) := by
  have h := map_beside_map f id u v
  rwa [map_id] at h

theorem beside_map (g : β → β') (u : Deferred α) (v : Deferred β) :
    u.beside (v.map g) = (u.beside v).map (Prod.map id g) := by
  have h := map_beside_map id g u v
  rwa [map_id] at h

theorem beside_done (b : β) : ∀ w : Deferred α, w.beside (.done b) = w.map fun a => (a, b)
  | .done _ => rfl
  | .record e rest => congrArg (Deferred.record e) (beside_done b rest)
  | .draw c rest => congrArg (Deferred.draw c) (funext fun n => beside_done b (rest n))
  | .pause _ => rfl

/-- **How pieces of work are put into pairs does not matter.** -/
theorem beside_assoc : ∀ (u : Deferred α) (v : Deferred β) (w : Deferred γ),
    ((u.beside v).beside w).map (fun r => (r.1.1, (r.1.2, r.2))) = u.beside (v.beside w)
  | .done a, v, w => by
    simp only [beside, map_beside, map_map]
    rfl
  | .record e rest, v, w => congrArg (Deferred.record e) (beside_assoc rest v w)
  | .draw c rest, v, w => congrArg (Deferred.draw c) (funext fun n => beside_assoc (rest n) v w)
  | .pause rest, v, w => by
    -- the first piece is unfinished, so what the round still does is up to the second
    induction v with
    | done b =>
      refine (map_afterUnfinished _ _ _ w).trans (Eq.trans ?_ (afterUnfinished_map (Prod.mk b) _ _ w).symm)
      refine afterUnfinished_congr (fun c => ?_) (fun w => ?_) w
      · simp only [map_map]
      · simp only [map_beside, beside_map, map_map]
        rfl
    | record e v hv => exact congrArg (Deferred.record e) hv
    | draw c v hv => exact congrArg (Deferred.draw c) (funext hv)
    | pause v _ =>
      refine (map_afterUnfinished _ _ _ w).trans (Eq.trans ?_ (afterUnfinished_afterUnfinished _ _ _ _ w).symm)
      refine afterUnfinished_congr (fun c => ?_) (fun w => beside_assoc rest v w) w
      simp only [beside_map, map_map]
      rfl

/-! ## Rounds -/

end Deferred

namespace Turns

theorem byRound_map (f : α → β) : ∀ t : Turns α, (t.map f).byRound = t.byRound.map f
  | .done _ => rfl
  | .record e rest => congrArg (Deferred.record e) (byRound_map f rest)
  | .draw c rest => congrArg (Deferred.draw c) (funext fun n => byRound_map f (rest n))
  | .polled _ rest => byRound_map f rest
  | .round rest => congrArg Deferred.pause (byRound_map f rest)

theorem byRound_alone : ∀ w : Deferred α, (alone w).byRound = w
  | .done _ => rfl
  | .record e rest => congrArg (Deferred.record e) (byRound_alone rest)
  | .draw c rest => congrArg (Deferred.draw c) (funext fun n => byRound_alone (rest n))
  | .pause rest => congrArg Deferred.pause (byRound_alone rest)

theorem byRound_afterUnfinished {left : α → Turns γ} {both : Turns α → Turns γ} {left' : α → Deferred γ}
    {both' : Deferred α → Deferred γ} (hleft : ∀ a, (left a).byRound = left' a)
    (hboth : ∀ t, (both t).byRound = both' t.byRound) : ∀ t : Turns α,
    (afterUnfinished left both t).byRound = Deferred.afterUnfinished left' both' t.byRound
  | .done a => congrArg Deferred.pause (hleft a)
  | .record e rest => congrArg (Deferred.record e) (byRound_afterUnfinished hleft hboth rest)
  | .draw c rest => congrArg (Deferred.draw c) (funext fun n => byRound_afterUnfinished hleft hboth (rest n))
  | .polled _ rest => byRound_afterUnfinished hleft hboth rest
  | .round rest => congrArg Deferred.pause (hboth rest)

/-- **A piece polled before others is beside them.** -/
theorem byRound_before : ∀ (w : Deferred α) (t : Turns β), (before w t).byRound = w.beside t.byRound
  | .done a, t => byRound_map (Prod.mk a) t
  | .record e rest, t => congrArg (Deferred.record e) (byRound_before rest t)
  | .draw c rest, t => congrArg (Deferred.draw c) (funext fun n => byRound_before (rest n) t)
  | .pause rest, t =>
    byRound_afterUnfinished (fun _ => (byRound_map _ _).trans (congrArg _ (byRound_alone rest)))
      (fun t => byRound_before rest t) t

end Turns

namespace Deferred

/-- Pieces of work in rounds, however many they are. -/
def rounds (works : List (Deferred α)) : Deferred (List α) := (Turns.ofList works).byRound

theorem rounds_cons (w : Deferred α) (works : List (Deferred α)) :
    rounds (w :: works) = (w.beside (rounds works)).map fun r => r.1 :: r.2 := by
  rw [rounds, Turns.ofList, Turns.byRound_map, Turns.byRound_before]
  rfl

/-- **Pieces of work in a row are two rows side by side.** -/
theorem rounds_append (works' : List (Deferred α)) : ∀ works : List (Deferred α),
    rounds (works ++ works') = ((rounds works).beside (rounds works')).map fun r => r.1 ++ r.2
  | [] => by
    refine Eq.trans (map_id _).symm (Eq.trans ?_ (map_map _ _ _).symm)
    rfl
  | w :: works => by
    have hassoc := beside_assoc w (rounds works) (rounds works')
    rw [List.cons_append, rounds_cons, rounds_append works' works, rounds_cons, beside_map, ← hassoc, map_beside]
    simp only [map_map]
    rfl

/-- **Some of the pieces may be put together to one piece first**: `grouped` makes something of what they end in. -/
theorem rounds_grouped (grouped : List α → α) (before works after : List (Deferred α)) :
    rounds (before ++ (rounds works).map grouped :: after) =
      ((rounds before).beside ((rounds works).beside (rounds after))).map fun r => r.1 ++ grouped r.2.1 :: r.2.2 := by
  rw [rounds_append, rounds_cons, map_beside, map_map, beside_map, map_map]
  rfl

theorem rounds_append_append (before works after : List (Deferred α)) :
    rounds (before ++ (works ++ after)) =
      ((rounds before).beside ((rounds works).beside (rounds after))).map fun r => r.1 ++ (r.2.1 ++ r.2.2) := by
  rw [rounds_append, rounds_append, beside_map, map_map]
  rfl

theorem all_of_few {works : List (Deferred α)} (h : works.length ≤ few) : all works = rounds works := if_pos h

/-- **Awaited, pieces that are put together first do what they do otherwise**, if so few are put together that a poll of
them is a whole round, or if there is nothing beside them. -/
theorem await_all_grouped (grouped : List α → α) {before works after : List (Deferred α)}
    (h : works.length ≤ few ∨ before = [] ∧ after = []) (counters : Counters) :
    ∃ joint : Run (List α × List α × List α),
      (all (before ++ (all works).map grouped :: after)).await counters =
        joint.map (fun r => r.1 ++ grouped r.2.1 :: r.2.2) ∧
      (all (before ++ (works ++ after))).await counters = joint.map fun r => r.1 ++ (r.2.1 ++ r.2.2) := by
  rcases h with hfew | ⟨rfl, rfl⟩
  · refine ⟨((rounds before).beside ((rounds works).beside (rounds after))).await counters, ?_, ?_⟩
    · rw [all_of_few hfew, await_all, ← rounds, rounds_grouped, await_map]
    · rw [await_all, ← rounds, rounds_append_append, await_map]
  · refine ⟨((all works).await counters).map fun rs => ([], rs, []), ?_, ?_⟩
    · have hrounds : rounds [(all works).map grouped] = (all works).map fun rs => [grouped rs] := by
        rw [rounds_cons, show rounds ([] : List (Deferred α)) = .done [] from rfl, beside_done, map_map, map_map]
      rw [List.nil_append, await_all, ← rounds, hrounds, await_map]
      rfl
    · simp [Run.map]

end Deferred
end Schemata
