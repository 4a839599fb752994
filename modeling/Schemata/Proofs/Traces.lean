import Mathlib.Data.List.Forall2
import Schemata.Outcome.Run
/-!
# Traces — every way in which work can go

`Deferred.await` follows the one run that the counters decide.  `Deferred.Runs` forgets the counters: the numbers that
are drawn may be any, so it holds of every log and every end that some counters could bring about, and what holds of all
of them cannot depend on what else is polled in between.

The law of this module is about pieces of work that are waited for together (`Deferred.runs_all`): whatever the turns in
which they are polled, each goes its own way to its own end, the events of each keep their order, and the ends come in
the order of the pieces.  So outcomes that are joined settle to what each of them can settle to (`Outcome.ends_join`).
-/
namespace Schemata

variable {α β γ : Type}

/-- Of each member of a list only one thing comes, in whichever of two ways; so the same list comes of all of them. -/
theorem eq_of_forall₂ {R S : α → β → Prop} : ∀ {l : List α} {as bs : List β},
    (∀ x ∈ l, ∀ a b, R x a → S x b → a = b) → List.Forall₂ R l as → List.Forall₂ S l bs → as = bs
  | [], _, _, _, .nil, .nil => rfl
  | x :: _, _, _, h, .cons ha has, .cons hb hbs => by
    rw [h x List.mem_cons_self _ _ ha hb, eq_of_forall₂ (fun y hy => h y (List.mem_cons_of_mem x hy)) has hbs]

/-- What is made of members and their positions is related to the members at the same positions of another list. -/
theorem forall₂_mapIdx_left_iff {R : β → γ → Prop} {f : Nat → α → β} {l : List α} {l' : List γ} :
    List.Forall₂ R (l.mapIdx f) l' ↔
      l.length = l'.length ∧ ∀ i (hi : i < l.length) (hi' : i < l'.length), R (f i l[i]) l'[i] := by
  rw [List.forall₂_iff_get]
  simp only [List.length_mapIdx, List.get_eq_getElem, List.getElem_mapIdx]

/-- Every event of two logs and no other, those of each log in their order. -/
inductive Interleaved : List Event → List Event → List Event → Prop where
  | nil : Interleaved [] [] []
  | left {e : Event} {l r log : List Event} : Interleaved l r log → Interleaved (e :: l) r (e :: log)
  | right {e : Event} {l r log : List Event} : Interleaved l r log → Interleaved l (e :: r) (e :: log)

namespace Interleaved

theorem nil_left : ∀ l : List Event, Interleaved [] l l
  | [] => .nil
  | _ :: l => .right (nil_left l)

theorem nil_right : ∀ l : List Event, Interleaved l [] l
  | [] => .nil
  | _ :: l => .left (nil_right l)

theorem append_right {l r log : List Event} (h : Interleaved l r log) :
    ∀ before : List Event, Interleaved l (before ++ r) (before ++ log)
  | [] => h
  | _ :: before => .right (append_right h before)

theorem append (l r : List Event) : Interleaved l r (r ++ l) := by
  have h := append_right (nil_right l) r
  rwa [List.append_nil] at h

end Interleaved

namespace Deferred

/-- **The work can record a log and end so**, with some numbers for its draws. -/
def Runs : Deferred α → List Event → α → Prop
  | .done a, log, b => log = [] ∧ b = a
  | .record e rest, log, b => ∃ later, log = e :: later ∧ rest.Runs later b
  | .draw _ rest, log, b => ∃ n, (rest n).Runs log b
  | .pause rest, log, b => rest.Runs log b

def Ends (w : Deferred α) (a : α) : Prop := ∃ log, w.Runs log a

/-- Pieces of work go each their own way to their own ends, their events interleaved. -/
inductive RunTogether : List (Deferred α) → List Event → List α → Prop where
  | nil : RunTogether [] [] []
  | cons {w : Deferred α} {rest : List (Deferred α)} {l r log : List Event} {a : α} {as : List α} :
      w.Runs l a → RunTogether rest r as → Interleaved l r log → RunTogether (w :: rest) log (a :: as)

/-- **What is awaited goes one of its ways.** -/
theorem runs_await : ∀ (w : Deferred α) (counters : Counters),
    w.Runs (w.await counters).log (w.await counters).result
  | .done _, _ => ⟨rfl, rfl⟩
  | .record _ rest, counters => ⟨_, rfl, runs_await rest counters⟩
  | .draw c rest, counters => ⟨counters c, runs_await (rest (counters c)) (counters.advance c)⟩
  | .pause rest, counters => runs_await rest counters

/-- **A chain goes the way of its first part and then that of the second.** -/
theorem runs_bind (f : α → Deferred β) : ∀ (w : Deferred α) (log : List Event) (b : β),
    (w.bind f).Runs log b ↔ ∃ l r a, log = l ++ r ∧ w.Runs l a ∧ (f a).Runs r b
  | .done a, log, b => by
    constructor
    · intro h
      exact ⟨[], log, a, rfl, ⟨rfl, rfl⟩, h⟩
    · rintro ⟨l, r, a', rfl, ⟨rfl, rfl⟩, h⟩
      exact h
  | .record e rest, log, b => by
    constructor
    · rintro ⟨later, rfl, h⟩
      obtain ⟨l, r, a, rfl, hl, hr⟩ := (runs_bind f rest later b).1 h
      exact ⟨e :: l, r, a, rfl, ⟨l, rfl, hl⟩, hr⟩
    · rintro ⟨l, r, a, rfl, ⟨l', rfl, hl⟩, hr⟩
      exact ⟨l' ++ r, rfl, (runs_bind f rest _ b).2 ⟨l', r, a, rfl, hl, hr⟩⟩
  | .draw c rest, log, b => by
    constructor
    · rintro ⟨n, h⟩
      obtain ⟨l, r, a, rfl, hl, hr⟩ := (runs_bind f (rest n) log b).1 h
      exact ⟨l, r, a, rfl, ⟨n, hl⟩, hr⟩
    · rintro ⟨l, r, a, rfl, ⟨n, hl⟩, hr⟩
      exact ⟨n, (runs_bind f (rest n) _ b).2 ⟨l, r, a, rfl, hl, hr⟩⟩
  | .pause rest, log, b => runs_bind f rest log b

theorem ends_bind (f : α → Deferred β) (w : Deferred α) (b : β) :
    (w.bind f).Ends b ↔ ∃ a, w.Ends a ∧ (f a).Ends b := by
  constructor
  · rintro ⟨log, h⟩
    obtain ⟨l, r, a, -, hl, hr⟩ := (runs_bind f w log b).1 h
    exact ⟨a, ⟨l, hl⟩, ⟨r, hr⟩⟩
  · rintro ⟨a, ⟨l, hl⟩, ⟨r, hr⟩⟩
    exact ⟨l ++ r, (runs_bind f w _ b).2 ⟨l, r, a, rfl, hl, hr⟩⟩

@[simp] theorem ends_done (a b : α) : (Deferred.done a).Ends b ↔ b = a :=
  ⟨fun ⟨_, _, h⟩ => h, fun h => ⟨[], rfl, h⟩⟩

@[simp] theorem ends_record (e : Event) (w : Deferred α) (b : α) : (Deferred.record e w).Ends b ↔ w.Ends b :=
  ⟨fun ⟨_, later, _, h⟩ => ⟨later, h⟩, fun ⟨log, h⟩ => ⟨e :: log, log, rfl, h⟩⟩

@[simp] theorem ends_draw (c : Nat) (k : Nat → Deferred α) (b : α) :
    (Deferred.draw c k).Ends b ↔ ∃ n, (k n).Ends b :=
  ⟨fun ⟨log, n, h⟩ => ⟨n, log, h⟩, fun ⟨n, log, h⟩ => ⟨log, n, h⟩⟩

/-- **Polls change nothing in what work can end in.** -/
@[simp] theorem ends_after (w : Deferred α) (b : α) : ∀ polls : Nat, (Deferred.after polls w).Ends b ↔ w.Ends b
  | 0 => Iff.rfl
  | polls + 1 => ends_after w b polls

theorem RunTogether.ends {works : List (Deferred α)} {log : List Event} {as : List α}
    (h : RunTogether works log as) : List.Forall₂ Ends works as := by
  induction h with
  | nil => exact .nil
  | cons hw _ _ ih => exact .cons ⟨_, hw⟩ ih

end Deferred

namespace Turns

def Runs : Turns α → List Event → α → Prop
  | .done a, log, b => log = [] ∧ b = a
  | .record e rest, log, b => ∃ later, log = e :: later ∧ rest.Runs later b
  | .draw _ rest, log, b => ∃ n, (rest n).Runs log b
  | .polled _ rest, log, b => rest.Runs log b
  | .round rest, log, b => rest.Runs log b

theorem runs_of_map (f : α → β) : ∀ (t : Turns α) {log : List Event} {b : β}, (t.map f).Runs log b →
    ∃ a, t.Runs log a ∧ b = f a
  | .done a, _, _, ⟨hl, hb⟩ => ⟨a, ⟨hl, rfl⟩, hb⟩
  | .record _ rest, _, _, ⟨later, hl, h⟩ => by
    obtain ⟨a, ha, hb⟩ := runs_of_map f rest h
    exact ⟨a, ⟨later, hl, ha⟩, hb⟩
  | .draw _ rest, _, _, ⟨n, h⟩ => by
    obtain ⟨a, ha, hb⟩ := runs_of_map f (rest n) h
    exact ⟨a, ⟨n, ha⟩, hb⟩
  | .polled _ rest, _, _, h => runs_of_map f rest h
  | .round rest, _, _, h => runs_of_map f rest h

theorem runs_of_alone : ∀ (w : Deferred α) {log : List Event} {a : α}, (alone w).Runs log a → w.Runs log a
  | .done _, _, _, h => h
  | .record _ rest, _, _, ⟨later, hl, h⟩ => ⟨later, hl, runs_of_alone rest h⟩
  | .draw _ rest, _, _, ⟨n, h⟩ => ⟨n, runs_of_alone (rest n) h⟩
  | .pause rest, _, _, h => runs_of_alone rest h

/-- **The rest of a round**: the other pieces get to their end, or to their next round, and the whole goes on from
there. -/
theorem runs_of_afterUnfinished (left : α → Turns γ) (both : Turns α → Turns γ) : ∀ (t : Turns α) {log : List Event}
    {c : γ}, (afterUnfinished left both t).Runs log c →
      (∃ l r a, log = l ++ r ∧ t.Runs l a ∧ (left a).Runs r c) ∨
        (∃ l r t', log = l ++ r ∧ (∀ later a, t'.Runs later a → t.Runs (l ++ later) a) ∧ (both t').Runs r c)
  | .done a, log, _, h => .inl ⟨[], log, a, rfl, ⟨rfl, rfl⟩, h⟩
  | .record e rest, _, _, ⟨later, hl, h⟩ => by
    subst hl
    rcases runs_of_afterUnfinished left both rest h with ⟨l, r, a, rfl, ht, hc⟩ | ⟨l, r, t', rfl, ht, hc⟩
    · exact .inl ⟨e :: l, r, a, rfl, ⟨l, rfl, ht⟩, hc⟩
    · exact .inr ⟨e :: l, r, t', rfl, fun later a h' => ⟨l ++ later, rfl, ht later a h'⟩, hc⟩
  | .draw _ rest, _, _, ⟨n, h⟩ => by
    rcases runs_of_afterUnfinished left both (rest n) h with ⟨l, r, a, rfl, ht, hc⟩ | ⟨l, r, t', rfl, ht, hc⟩
    · exact .inl ⟨l, r, a, rfl, ⟨n, ht⟩, hc⟩
    · exact .inr ⟨l, r, t', rfl, fun later a h' => ⟨n, ht later a h'⟩, hc⟩
  | .polled _ rest, _, _, h => runs_of_afterUnfinished left both rest h
  | .round rest, log, _, h => .inr ⟨[], log, rest, rfl, fun _ _ h' => h', h⟩

/-- **A piece polled before others goes its own way, and so do they.** -/
theorem runs_of_before : ∀ (w : Deferred α) (t : Turns β) {log : List Event} {r : α × β}, (before w t).Runs log r →
    ∃ l l', w.Runs l r.1 ∧ t.Runs l' r.2 ∧ Interleaved l l' log
  | .done a, t, log, r, h => by
    obtain ⟨b, hb, rfl⟩ := runs_of_map (Prod.mk a) t h
    exact ⟨[], log, ⟨rfl, rfl⟩, hb, .nil_left log⟩
  | .record e rest, t, _, _, ⟨later, hl, h⟩ => by
    subst hl
    obtain ⟨l, l', hw, ht, hi⟩ := runs_of_before rest t h
    exact ⟨e :: l, l', ⟨l, rfl, hw⟩, ht, .left hi⟩
  | .draw _ rest, t, _, _, ⟨n, h⟩ => by
    obtain ⟨l, l', hw, ht, hi⟩ := runs_of_before (rest n) t h
    exact ⟨l, l', ⟨n, hw⟩, ht, hi⟩
  | .pause rest, t, _, _, h => by
    rcases runs_of_afterUnfinished _ _ t h with ⟨l, l', b, rfl, ht, hc⟩ | ⟨l, l', t', rfl, ht, hc⟩
    · obtain ⟨a, ha, rfl⟩ := runs_of_map _ (alone rest) hc
      exact ⟨l', l, runs_of_alone rest ha, ht, .append l' l⟩
    · obtain ⟨m, m', hw, ht', hi⟩ := runs_of_before rest t' hc
      exact ⟨m, l ++ m', hw, ht _ _ ht', hi.append_right l⟩

theorem runs_of_ofList : ∀ (works : List (Deferred α)) {log : List Event} {as : List α},
    (ofList works).Runs log as → Deferred.RunTogether works log as
  | [], _, _, ⟨hl, ha⟩ => by
    subst hl ha
    exact .nil
  | w :: rest, _, _, h => by
    obtain ⟨⟨a, as⟩, hb, rfl⟩ := runs_of_map _ (before w (ofList rest)) h
    obtain ⟨l, l', hw, hr, hi⟩ := runs_of_before w (ofList rest) hb
    exact .cons hw (runs_of_ofList rest hr) hi

theorem runs_of_byRound : ∀ (t : Turns α) {log : List Event} {a : α}, t.byRound.Runs log a → t.Runs log a
  | .done _, _, _, h => h
  | .record _ rest, _, _, ⟨later, hl, h⟩ => ⟨later, hl, runs_of_byRound rest h⟩
  | .draw _ rest, _, _, ⟨n, h⟩ => ⟨n, runs_of_byRound (rest n) h⟩
  | .polled _ rest, _, _, h => runs_of_byRound rest h
  | .round rest, _, _, h => runs_of_byRound rest h

theorem runs_of_byPair : ∀ (t : Turns α) (left : Nat) (again : Bool) {log : List Event} {a : α},
    (t.byPair left again).Runs log a → t.Runs log a
  | .done _, _, _, _, _, h => h
  | .record _ rest, left, again, _, _, ⟨later, hl, h⟩ => ⟨later, hl, runs_of_byPair rest left again h⟩
  | .draw _ rest, left, again, _, _, ⟨n, h⟩ => ⟨n, runs_of_byPair (rest n) left again h⟩
  | .polled true rest, left, _, _, _, h => runs_of_byPair rest (left - 1) false h
  | .polled false rest, left, again, _, _, h => by
    simp only [byPair] at h
    split at h
    · exact runs_of_byPair rest left false h
    · exact runs_of_byPair rest left true h
  | .round rest, left, again, _, _, h => runs_of_byPair rest left again h

end Turns

/-- **Pieces of work that are waited for together go each their own way to their own ends**, however many they are and
however their polls fall; the ends come in the order of the pieces. -/
theorem Deferred.runs_all {works : List (Deferred α)} {log : List Event} {as : List α}
    (h : (Deferred.all works).Runs log as) : Deferred.RunTogether works log as := by
  unfold Deferred.all at h
  split at h
  · exact Turns.runs_of_ofList works (Turns.runs_of_byRound _ h)
  · exact Turns.runs_of_ofList works (Turns.runs_of_byPair _ _ _ h)

namespace Turns

def Ends (t : Turns α) (a : α) : Prop := ∃ log, t.Runs log a

@[simp] theorem ends_done (a b : α) : (Turns.done a).Ends b ↔ b = a := ⟨fun ⟨_, _, h⟩ => h, fun h => ⟨[], rfl, h⟩⟩

@[simp] theorem ends_record (e : Event) (t : Turns α) (b : α) : (Turns.record e t).Ends b ↔ t.Ends b :=
  ⟨fun ⟨_, later, _, h⟩ => ⟨later, h⟩, fun ⟨log, h⟩ => ⟨e :: log, log, rfl, h⟩⟩

@[simp] theorem ends_draw (c : Nat) (k : Nat → Turns α) (b : α) : (Turns.draw c k).Ends b ↔ ∃ n, (k n).Ends b :=
  ⟨fun ⟨log, n, h⟩ => ⟨n, log, h⟩, fun ⟨n, log, h⟩ => ⟨log, n, h⟩⟩

theorem Ends.map {a : α} (f : α → β) : ∀ {t : Turns α}, t.Ends a → (t.map f).Ends (f a)
  | .done b, h => by
    obtain rfl := (ends_done b a).1 h
    exact (ends_done _ _).2 rfl
  | .record e rest, h => (ends_record e _ _).2 (Ends.map f ((ends_record e rest a).1 h))
  | .draw c rest, h => by
    obtain ⟨n, h⟩ := (ends_draw c rest a).1 h
    exact (ends_draw c _ _).2 ⟨n, Ends.map f h⟩
  | .polled _ rest, h => Ends.map f (t := rest) h
  | .round rest, h => Ends.map f (t := rest) h

theorem ends_alone {a : α} : ∀ {w : Deferred α}, w.Ends a → (alone w).Ends a
  | .done _, h => h
  | .record e rest, h => (ends_record e _ _).2 (ends_alone ((Deferred.ends_record e rest a).1 h))
  | .draw c rest, h => by
    obtain ⟨n, h⟩ := (Deferred.ends_draw c rest a).1 h
    exact (ends_draw c _ _).2 ⟨n, ends_alone h⟩
  | .pause rest, h => ends_alone (w := rest) h

theorem Ends.afterUnfinished {left : α → Turns γ} {both : Turns α → Turns γ} {a : α} {c : γ}
    (hleft : (left a).Ends c) (hboth : ∀ {t}, Turns.Ends t a → (both t).Ends c) :
    ∀ {t : Turns α}, t.Ends a → (Turns.afterUnfinished left both t).Ends c
  | .done b, h => by
    obtain rfl := (ends_done b a).1 h
    exact hleft
  | .record e rest, h => (ends_record e _ _).2 (Ends.afterUnfinished hleft hboth ((ends_record e rest a).1 h))
  | .draw i rest, h => by
    obtain ⟨n, h⟩ := (ends_draw i rest a).1 h
    exact (ends_draw i _ _).2 ⟨n, Ends.afterUnfinished hleft hboth h⟩
  | .polled _ rest, h => Ends.afterUnfinished hleft hboth (t := rest) h
  | .round _, h => hboth h

theorem Ends.before {a : α} {b : β} : ∀ {w : Deferred α} {t : Turns β}, w.Ends a → t.Ends b →
    (Turns.before w t).Ends (a, b)
  | .done a', t, hw, ht => by
    obtain rfl := (Deferred.ends_done a' a).1 hw
    exact ht.map _
  | .record e rest, t, hw, ht => (ends_record e _ _).2 (Ends.before ((Deferred.ends_record e rest a).1 hw) ht)
  | .draw c rest, t, hw, ht => by
    obtain ⟨n, hw⟩ := (Deferred.ends_draw c rest a).1 hw
    exact (ends_draw c _ _).2 ⟨n, Ends.before hw ht⟩
  | .pause rest, t, hw, ht => by
    change (Turns.afterUnfinished (fun b => (alone rest).map fun a => (a, b)) (Turns.before rest) t).Ends (a, b)
    refine Ends.afterUnfinished ?_ (fun ht => Ends.before (w := rest) hw ht) ht
    exact (ends_alone (w := rest) hw).map fun a => (a, b)

theorem ends_ofList {works : List (Deferred α)} {as : List α} (h : List.Forall₂ Deferred.Ends works as) :
    (ofList works).Ends as := by
  induction h with
  | nil => exact ⟨[], rfl, rfl⟩
  | cons hw _ ih => exact (Ends.before hw ih).map fun r => r.1 :: r.2

theorem ends_byRound {a : α} : ∀ {t : Turns α}, t.Ends a → t.byRound.Ends a
  | .done _, h => h
  | .record e rest, h => (Deferred.ends_record e _ _).2 (ends_byRound ((ends_record e rest a).1 h))
  | .draw c rest, h => by
    obtain ⟨n, h⟩ := (ends_draw c rest a).1 h
    exact (Deferred.ends_draw c _ _).2 ⟨n, ends_byRound h⟩
  | .polled _ rest, h => ends_byRound (t := rest) h
  | .round rest, h => ends_byRound (t := rest) h

theorem ends_byPair {a : α} : ∀ {t : Turns α} (left : Nat) (again : Bool), t.Ends a → (t.byPair left again).Ends a
  | .done _, _, _, h => h
  | .record e rest, left, again, h =>
    (Deferred.ends_record e _ _).2 (ends_byPair left again ((ends_record e rest a).1 h))
  | .draw c rest, left, again, h => by
    obtain ⟨n, h⟩ := (ends_draw c rest a).1 h
    exact (Deferred.ends_draw c _ _).2 ⟨n, ends_byPair left again h⟩
  | .polled true rest, left, _, h => ends_byPair (t := rest) (left - 1) false h
  | .polled false rest, left, again, h => by
    simp only [byPair]
    split
    · exact ends_byPair (t := rest) left false h
    · exact ends_byPair (t := rest) left true h
  | .round rest, left, again, h => ends_byPair (t := rest) left again h

end Turns

/-- **Pieces of work that are waited for together can end in whatever each of them can end in**, however many they are:
no piece rules an end of another out. -/
theorem Deferred.ends_all (works : List (Deferred α)) (as : List α) :
    (Deferred.all works).Ends as ↔ List.Forall₂ Deferred.Ends works as := by
  refine ⟨fun ⟨_, h⟩ => (runs_all h).ends, fun h => ?_⟩
  unfold Deferred.all
  dsimp only
  split
  · exact Turns.ends_byRound (Turns.ends_ofList h)
  · exact Turns.ends_byPair _ _ (Turns.ends_ofList h)

namespace Outcome

def Ends (o : Outcome α) (a : α) : Prop := o.toDeferred.Ends a

/-- **What an outcome settles to is something that it can settle to.** -/
theorem ends_settle (o : Outcome α) (counters : Counters) : o.Ends (o.settle counters).result :=
  ⟨_, Deferred.runs_await o.toDeferred counters⟩

@[simp] theorem ends_ready (a b : α) : (Outcome.ready a).Ends b ↔ b = a := Deferred.ends_done a b

@[simp] theorem ends_pending (w : Deferred α) (b : α) : (Outcome.pending w).Ends b ↔ w.Ends b := Iff.rfl

@[simp] theorem ends_record (e : Event) (o : Outcome α) (b : α) : (Outcome.record e o).Ends b ↔ o.Ends b :=
  Deferred.ends_record e o.toDeferred b

@[simp] theorem ends_draw (c : Nat) (k : Nat → Outcome α) (b : α) :
    (Outcome.draw c k).Ends b ↔ ∃ n, (k n).Ends b := Deferred.ends_draw c (fun n => (k n).toDeferred) b

theorem ends_bind (o : Outcome α) (f : α → Outcome β) (b : β) :
    (o.bind f).Ends b ↔ ∃ a, o.Ends a ∧ (f a).Ends b := by
  unfold Ends
  rw [toDeferred_bind]
  exact Deferred.ends_bind _ _ b

theorem ends_map (f : α → β) (o : Outcome α) (b : β) : (o.map f).Ends b ↔ ∃ a, o.Ends a ∧ b = f a := by
  rw [map, ends_bind]
  simp only [ends_ready]

theorem ends_of_launch : ∀ (o : Outcome α) {l : Launch α} {a : α}, o.launch.Ends l → l.toDeferred.Ends a → o.Ends a
  | .ready b, l, a, hl, ha => by
    obtain rfl := (ends_ready _ _).1 hl
    exact ha
  | .pending w, l, a, hl, ha => by
    obtain rfl := (ends_ready _ _).1 hl
    exact ha
  | .record e rest, _, _, hl, ha =>
    (ends_record e rest _).2 (ends_of_launch rest ((ends_record e rest.launch _).1 hl) ha)
  | .draw c rest, _, _, hl, ha => by
    obtain ⟨n, hn⟩ := (ends_draw c (fun n => (rest n).launch) _).1 hl
    exact (ends_draw c rest _).2 ⟨n, ends_of_launch (rest n) hn ha⟩

theorem ends_launchAll : ∀ (os : List (Outcome α)) {ls : List (Launch α)}, (launchAll os).Ends ls →
    List.Forall₂ (fun o l => o.launch.Ends l) os ls
  | [], ls, h => by
    obtain rfl := (ends_ready _ _).1 h
    exact .nil
  | o :: rest, ls, h => by
    obtain ⟨l, hl, h⟩ := (ends_bind _ _ _).1 h
    obtain ⟨ls, hls, rfl⟩ := (ends_map _ _ _).1 h
    exact .cons hl (ends_launchAll rest hls)

end Outcome

theorem Deferred.after_bind (w : Deferred α) (f : α → Deferred β) :
    ∀ polls : Nat, (Deferred.after polls w).bind f = .after polls (w.bind f)
  | 0 => rfl
  | polls + 1 => congrArg Deferred.pause (after_bind w f polls)

theorem Step.call_bind (s : Step) (a : α) (f : α → Outcome β) :
    (s.call a).bind f = .record (.invoked s) (match s.timing with
      | .immediate => f a
      | .deferred polls => .pending (.after polls (.record (.settled s) (f a).toDeferred))
      | .varying counter polls =>
        .draw counter fun n => .pending (.after (polls n) (.record (.settled s) (f a).toDeferred))) := by
  unfold Step.call
  cases s.timing with
  | immediate => rfl
  | deferred polls => simp [Step.answerAfter, Deferred.after_bind]
  | varying counter polls => simp [Step.answerAfter, Deferred.after_bind]

/-- **A step ends in its answer**, whenever that comes. -/
@[simp] theorem Step.ends_call (s : Step) (a b : α) : (s.call a).Ends b ↔ b = a := by
  rw [Step.call, Outcome.ends_record]
  cases s.timing with
  | immediate => exact Outcome.ends_ready a b
  | deferred polls => simp [Step.answerAfter]
  | varying counter polls => simp [Step.answerAfter]

namespace Launch

theorem ends_of_mapM_answer? : ∀ {ls : List (Launch α)} {as : List α}, ls.mapM answer? = some as →
    List.Forall₂ (fun l a => l.toDeferred.Ends a) ls as
  | [], as, h => by
    obtain rfl : [] = as := by simpa using h
    exact .nil
  | .ready a :: ls, as, h => by
    obtain ⟨as, hs, rfl⟩ : ∃ as', ls.mapM answer? = some as' ∧ a :: as' = as := by
      simpa [List.mapM_cons, answer?, Option.bind_eq_some_iff] using h
    exact .cons ((Deferred.ends_done a a).2 rfl) (ends_of_mapM_answer? hs)
  | .pending _ :: ls, as, h => by simp [List.mapM_cons, answer?] at h

theorem ends_join {ls : List (Launch α)} {as : List α} (h : (join ls).Ends as) :
    List.Forall₂ (fun l a => l.toDeferred.Ends a) ls as := by
  unfold join at h
  split at h
  · rename_i answers hs
    obtain rfl := (Outcome.ends_ready _ _).1 h
    exact ends_of_mapM_answer? hs
  · obtain ⟨log, h⟩ := h
    have hall := (Deferred.runs_all h).ends
    rwa [List.forall₂_map_left_iff] at hall

end Launch

/-- **Outcomes that are joined settle to what each of them can settle to**, in their order. -/
theorem Outcome.ends_join {os : List (Outcome α)} {as : List α} (h : (Outcome.join os).Ends as) :
    List.Forall₂ Outcome.Ends os as := by
  obtain ⟨ls, hls, has⟩ := (ends_bind _ _ _).1 h
  have hl := ends_launchAll os hls
  have ha := Launch.ends_join has
  clear h hls has
  induction hl generalizing as with
  | nil =>
    cases ha
    exact .nil
  | cons ho _ ih =>
    cases ha with
    | cons h hs => exact .cons (ends_of_launch _ ho h) (ih hs)

end Schemata
