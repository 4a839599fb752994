import Mathlib.Data.List.Perm.Basic
import Schemata.Proofs.Openings
import Schemata.Proofs.Plans
/-!
# Courses — how a call goes, and what is let go of on the way

A course tells what a call does before it returns, what it does later if it is pending and awaited, and what it comes
to. `Registries.Takes` builds the courses of a call from those of the calls that it makes.  Only a union lets go of
anything: when a candidate accepts at once, what the pending candidates before it have begun is never awaited, and the
notes on it say which union let go of it.

A property that is kept by all that courses are built with holds on every course (`Registries.Takes.law`).
-/
namespace Schemata

variable {α β : Type}

/-- An event on the way of a call, and the union that let go of the work that it belongs to, if one did. -/
structure Note where
  event : Event
  letGoBy : Option Call

namespace Note

def kept (e : Event) : Note := ⟨e, none⟩

/-- The note of what a union lets go of, unless another has let go of it before. -/
def letGo (c : Call) (n : Note) : Note := { n with letGoBy := some (n.letGoBy.getD c) }

end Note

/-- **How a call goes**: what is done before it returns, what is done after that if it is pending, and its answer. -/
structure Course (α : Type) where
  first : List Note
  later : Option (List Note)
  answer : α

namespace Course

def map (f : α → β) (p : Course α) : Course β := ⟨p.first, p.later, f p.answer⟩

/-- One course and then another: at once if the first is ready, and else after it has settled. -/
def andThen (p : Course α) (q : Course β) : Course β :=
  match p.later with
  | none => ⟨p.first ++ q.first, q.later, q.answer⟩
  | some awaited => ⟨p.first, some (awaited ++ q.first ++ q.later.getD []), q.answer⟩

theorem later_eq_none {p : Course α} (h : p.later.isSome = false) : p.later = none :=
  Option.isNone_iff_eq_none.1 (Option.isSome_eq_false_iff.1 h)

/-- Everything that is done, in the order of the course. -/
def notes (p : Course α) : List Note := p.first ++ p.later.getD []

theorem notes_andThen (p : Course α) (q : Course β) : (p.andThen q).notes = p.notes ++ q.notes := by
  unfold notes andThen
  cases p.later <;> simp

/-- The course of an answer that is there. -/
def done (a : α) : Course α := ⟨[], none, a⟩

theorem andThen_done (p : Course α) (b : β) : p.andThen (done b) = p.map fun _ => b := by
  obtain ⟨first, later, a⟩ := p
  cases later <;> simp [andThen, done, map]

/-- What is done later on all courses: something to be awaited if any of them is pending. -/
def laterOfAll (ps : List (Course α)) : Option (List Note) :=
  if ps.all fun p => p.later.isNone then none else some (ps.flatMap fun p => p.later.getD [])

@[simp] theorem getD_laterOfAll (ps : List (Course α)) :
    (laterOfAll ps).getD [] = ps.flatMap fun p => p.later.getD [] := by
  unfold laterOfAll
  split
  · rename_i hall
    refine (List.flatMap_eq_nil_iff.2 fun p hp => ?_).symm
    rw [Option.isNone_iff_eq_none.1 (List.all_eq_true.1 hall p hp), Option.getD_none]
  · rfl

theorem laterOfAll_eq_none_iff (ps : List (Course α)) : laterOfAll ps = none ↔ ∀ p ∈ ps, p.later = none := by
  unfold laterOfAll
  split
  · rename_i hall
    exact ⟨fun _ p hp => Option.isNone_iff_eq_none.1 (List.all_eq_true.1 hall p hp), fun _ => rfl⟩
  · rename_i hall
    exact ⟨nofun, fun h => absurd (List.all_eq_true.2 fun p hp => Option.isNone_iff_eq_none.2 (h p hp)) hall⟩

theorem notes_together (ps : List (Course α)) (b : β) :
    (⟨ps.flatMap first, laterOfAll ps, b⟩ : Course β).notes.Perm (ps.flatMap notes) := by
  simp only [notes, getD_laterOfAll]
  exact List.flatMap_append_perm ps first fun p => p.later.getD []

/-- All courses side by side, started in their order. -/
def all (ps : List (Course α)) : Course (List α) := ⟨ps.flatMap first, laterOfAll ps, ps.map answer⟩

/-- The call accepts, and does so at once. -/
def Accepts (p : Course (Verdict α)) : Prop := p.later = none ∧ ∃ out, p.answer = .ok out

/-- What there is of a candidate's course when the union lets go of it: nothing is done later. -/
def leftBy (c : Call) (p : Course α) : List Note :=
  match p.later with
  | none => p.first
  | some _ => p.first.map (Note.letGo c)

theorem mem_leftBy {c : Call} {p : Course α} {n : Note} (h : n ∈ p.leftBy c) :
    ∃ m ∈ p.first, n = m ∨ n = m.letGo c := by
  unfold leftBy at h
  split at h
  · exact ⟨n, h, .inl rfl⟩
  · obtain ⟨m, hm, rfl⟩ := List.mem_map.1 h
    exact ⟨m, hm, .inr rfl⟩

/-- A candidate that accepts at once, after others that do not. -/
def accepted (c : Call) (ps : List (Course (Verdict α))) (q : Course (Verdict α)) : Course (Verdict α) :=
  ⟨ps.flatMap (leftBy c) ++ q.first, none, q.answer⟩

def refusal (p : Course (Verdict α)) : List Issue :=
  match p.later with
  | none => p.answer.issues
  | some _ => []

/-- The answer that was awaited, if it was. -/
def awaited? (p : Course α) : Option α := p.later.map fun _ => p.answer

/-- Candidates none of which accepts at once. -/
def undecided (ps : List (Course (Verdict α))) : Course (Verdict α) :=
  ⟨ps.flatMap first, laterOfAll ps, Verdict.firstOutput ⟨ps.flatMap refusal⟩ (ps.filterMap awaited?)⟩

end Course

/-- The courses of an outcome by itself, in which nothing is let go of. -/
inductive Outcome.Takes : Outcome α → Course α → Prop where
  | ready {o : Outcome α} {log : List Event} {a : α} : o.Opens log (.ready a) → o.Takes ⟨log.map .kept, none, a⟩
  | pending {o : Outcome α} {log log' : List Event} {w : Deferred α} {a : α} : o.Opens log (.pending w) →
      w.Runs log' a → o.Takes ⟨log.map .kept, some (log'.map .kept), a⟩

namespace Registries

/-- **The courses of a call**, from those of the calls that it makes. -/
inductive Takes (rs : Registries) : Call → Course (Verdict Value) → Prop where
  | leaf {c : Call} {o : Outcome (Verdict Value)} {p : Course (Verdict Value)} : rs.plan c = .leaf o → o.Takes p →
      Takes rs c p
  | same {c d : Call} {p : Course (Verdict Value)} : rs.plan c = .same d → Takes rs d p → Takes rs c p
  | every {c : Call} {decide : List (Verdict Value) → Verdict Value} {xs : List (Call × Course (Verdict Value))} :
      rs.plan c = .every (xs.map Prod.fst) decide → (∀ x ∈ xs, Takes rs x.1 x.2) →
      Takes rs c ((Course.all (xs.map Prod.snd)).map decide)
  | accepted {c : Call} {xs : List (Schema × Course (Verdict Value))} {s : Schema} {rest : List Schema} {v : Value}
      {path : Path} {q : Course (Verdict Value)} : rs.plan c = .first (xs.map Prod.fst ++ s :: rest) v path →
      (∀ x ∈ xs, Takes rs ⟨x.1, v, path⟩ x.2) → (∀ x ∈ xs, ¬ x.2.Accepts) → Takes rs ⟨s, v, path⟩ q → q.Accepts →
      Takes rs c (.accepted c (xs.map Prod.snd) q)
  | undecided {c : Call} {xs : List (Schema × Course (Verdict Value))} {v : Value} {path : Path} :
      rs.plan c = .first (xs.map Prod.fst) v path → (∀ x ∈ xs, Takes rs ⟨x.1, v, path⟩ x.2) →
      (∀ x ∈ xs, ¬ x.2.Accepts) → Takes rs c (.undecided (xs.map Prod.snd))
  | supplied {c : Call} {supplier : Supplier} {path : Path} {call : Value → Call} {v : Value}
      {p : Course (Except String Value)} {q : Course (Verdict Value)} : rs.plan c = .supplied supplier path call →
      supplier.call.Takes p → p.answer = .ok v → Takes rs (call v) q → Takes rs c (p.andThen q)
  | unsupplied {c : Call} {supplier : Supplier} {path : Path} {call : Value → Call} {reason : String}
      {p : Course (Except String Value)} : rs.plan c = .supplied supplier path call → supplier.call.Takes p →
      p.answer = .error reason → Takes rs c (p.map fun _ => .error (.custom path (noDefaultText reason)))
  | effect {c d : Call} {step : Step} {judge : Value → Verdict Value} {v : Value} {p q : Course (Verdict Value)} :
      rs.plan c = .effect d step judge → Takes rs d p → p.answer = .ok v → (step.call (judge v)).Takes q →
      Takes rs c (p.andThen q)
  | refused {c d : Call} {step : Step} {judge : Value → Verdict Value} {r : Report} {p : Course (Verdict Value)} :
      rs.plan c = .effect d step judge → Takes rs d p → p.answer = .error r → Takes rs c p

end Registries

/-! ## Steps -/

/-- Whether the answer of a step is deferred. -/
def Step.late (s : Step) : Bool :=
  match s.timing with
  | .immediate => false
  | _ => true

theorem Deferred.runs_after (w : Deferred α) (log : List Event) (a : α) :
    ∀ polls : Nat, (Deferred.after polls w).Runs log a ↔ w.Runs log a
  | 0 => Iff.rfl
  | polls + 1 => runs_after w log a polls

/-- How a step goes: its call, and its settlement if it is late. -/
def Step.course (s : Step) (a : α) : Course α :=
  ⟨[.kept (.invoked s)], if s.late then some [.kept (.settled s)] else none, a⟩

theorem Step.eq_course_of_answerAfter {s : Step} {polls : Nat} {a b : α} {log : List Event} (hlate : s.late = true)
    (h : (s.answerAfter polls a).Runs log b) :
    (⟨[Note.kept (.invoked s)], some (log.map .kept), b⟩ : Course α) = s.course a := by
  obtain ⟨later, rfl, rfl, rfl⟩ := (Deferred.runs_after _ _ _ polls).1 h
  rw [Step.course, if_pos hlate]
  rfl

/-- **A step goes one way.** -/
theorem Step.eq_course_of_takes {s : Step} {a : α} {p : Course α} (h : (s.call a).Takes p) : p = s.course a := by
  unfold Step.call at h
  cases h with
  | ready ho =>
    obtain ⟨later, rfl, ho⟩ := ho
    cases htiming : s.timing <;> simp only [htiming, Outcome.Opens] at ho
    · obtain ⟨rfl, hb⟩ := ho
      obtain rfl := Launch.ready.inj hb
      simp [Step.course, Step.late, htiming]
    · cases ho.2
    · obtain ⟨n, ho⟩ := ho
      cases ho.2
  | pending ho hw =>
    obtain ⟨later, rfl, ho⟩ := ho
    cases htiming : s.timing <;> simp only [htiming, Outcome.Opens] at ho
    · cases ho.2
    · obtain ⟨rfl, hb⟩ := ho
      obtain rfl := Launch.pending.inj hb
      exact Step.eq_course_of_answerAfter (by simp [Step.late, htiming]) hw
    · obtain ⟨n, rfl, hb⟩ := ho
      obtain rfl := Launch.pending.inj hb
      exact Step.eq_course_of_answerAfter (by simp [Step.late, htiming]) hw

theorem Supplier.exists_course_of_takes {s : Supplier} {p : Course (Except String Value)} (h : s.call.Takes p) :
    ∃ answer, p = s.step.course answer := by
  obtain ⟨source, step⟩ := s
  cases source with
  | given answer => exact ⟨answer, Step.eq_course_of_takes h⟩
  | counted counter start =>
    cases h with
    | ready ho =>
      obtain ⟨n, ho⟩ := ho
      exact ⟨_, Step.eq_course_of_takes (.ready ho)⟩
    | pending ho hw =>
      obtain ⟨n, ho⟩ := ho
      exact ⟨_, Step.eq_course_of_takes (.pending ho hw)⟩

theorem Outcome.ends_of_opens : ∀ (o : Outcome α) {log : List Event} {launch : Launch α} {a : α}, o.Opens log launch →
    launch.toDeferred.Ends a → o.Ends a
  | .ready _, _, _, _, ⟨_, hlaunch⟩, h => by
    subst hlaunch
    exact h
  | .pending _, _, _, _, ⟨_, hlaunch⟩, h => by
    subst hlaunch
    exact h
  | .record e rest, _, _, _, ⟨_, _, ho⟩, h => (ends_record e rest _).2 (ends_of_opens rest ho h)
  | .draw c rest, _, _, _, ⟨n, ho⟩, h => (ends_draw c rest _).2 ⟨n, ends_of_opens (rest n) ho h⟩

theorem Outcome.Takes.ends {o : Outcome α} {p : Course α} (h : o.Takes p) : o.Ends p.answer := by
  cases h with
  | ready ho => exact ends_of_opens o ho ⟨[], rfl, rfl⟩
  | pending ho hw => exact ends_of_opens o ho ⟨_, hw⟩

theorem Supplier.gives_of_ends (s : Supplier) {v : Value} (h : s.call.Ends (.ok v)) : s.Gives v := by
  obtain ⟨source, step⟩ := s
  cases source with
  | given answer => exact ((Step.ends_call _ _ _).1 h).symm
  | counted counter start =>
    obtain ⟨n, hn⟩ := (Outcome.ends_draw _ _ _).1 h
    exact ⟨n, Except.ok.inj ((Step.ends_call _ _ _).1 hn)⟩

/-! ## Laws of all courses -/

/-- What a property needs to have for all courses to have it whose steps are among `steps`, and whose unions let go of
an event as `letsGo` says: answers that are there have it, and so has what is made of courses that have it. -/
structure Course.Law (steps : Step → Prop) (letsGo : Call → Event → Prop) (P : ∀ {α : Type}, Course α → Prop) :
    Prop where
  done : ∀ {α : Type} (a : α), P (.done a)
  step : ∀ {α : Type} {s : Step} (a : α), steps s → P (s.course a)
  map : ∀ {α β : Type} (f : α → β) {p : Course α}, P p → P (p.map f)
  andThen : ∀ {α β : Type} {p : Course α} {q : Course β}, P p → P q → P (p.andThen q)
  together : ∀ {α β : Type} {ps : List (Course α)}, (∀ p ∈ ps, P p) → ∀ b : β, P ⟨ps.flatMap first, laterOfAll ps, b⟩
  accepted : ∀ {c : Call} {ps : List (Course (Verdict Value))} {q : Course (Verdict Value)},
    (∀ p ∈ ps, p.later ≠ none → ∀ e, .kept e ∈ p.first → letsGo c e) → (∀ p ∈ ps, P p) → P q → q.Accepts →
    P (.accepted c ps q)

/-- A check of a user's that takes no courses but such, and any other node. -/
def Schema.Obeys (P : Course (Verdict Value) → Prop) : Schema → Prop
  | .custom check => ∀ v path p, (check v path).Takes p → P p
  | _ => True

theorem Schema.obeys_of_ne_custom {P : Course (Verdict Value) → Prop} {t : Schema} (h : ∀ check, t ≠ .custom check) :
    t.Obeys P := by
  cases t with
  | custom check => exact absurd rfl (h check)
  | _ => trivial

namespace Registries

variable {rs : Registries} {c : Call} {p : Course (Verdict Value)}

/-- **In a call of a union that the schema leads to, the union lets go of an event**: a candidate is pending that has
done it before it returned, and a later candidate accepts at once. -/
def LetsGo (rs : Registries) (s : Schema) (d : Call) (e : Event) : Prop :=
  ∃ before t after u p q, d.schema = .union (before ++ t :: after) ∧ rs.Reaches s d.schema ∧ u ∈ before ∧
    rs.Takes ⟨u, d.value, d.path⟩ p ∧ p.later ≠ none ∧ .kept e ∈ p.first ∧ rs.Takes ⟨t, d.value, d.path⟩ q ∧ q.Accepts

/-- All that a schema leads to: its users' checks obey, its steps are among some, and its unions let go of an event only
as `letsGo` says. -/
structure Within (rs : Registries) (steps : Step → Prop) (letsGo : Call → Event → Prop)
    (P : Course (Verdict Value) → Prop) (s : Schema) : Prop where
  leaves : ∀ t, rs.Reaches s t → t.Obeys P
  steps : ∀ t, rs.Reaches s t → ∀ step, t.step? = some step → steps step
  letsGo : ∀ d e, rs.LetsGo s d e → letsGo d e

theorem Within.of_makes {steps : Step → Prop} {letsGo : Call → Event → Prop} {P : Course (Verdict Value) → Prop}
    {d : Call} (h : rs.Within steps letsGo P c.schema) (hmade : (rs.plan c).Makes d) :
    rs.Within steps letsGo P d.schema where
  leaves t ht := h.leaves t (reaches_of_calls (calls_of_makes hmade) ht)
  steps t ht := h.steps t (reaches_of_calls (calls_of_makes hmade) ht)
  letsGo f e := by
    rintro ⟨before, t, after, u, p, q, hf, hr, hgo⟩
    exact h.letsGo f e ⟨before, t, after, u, p, q, hf, reaches_of_calls (calls_of_makes hmade) hr, hgo⟩

/-- **A law holds on every course.** -/
theorem Takes.law {steps : Step → Prop} {letsGo : Call → Event → Prop} {P : ∀ {α : Type}, Course α → Prop}
    (law : Course.Law steps letsGo P) (h : rs.Takes c p) : rs.Within steps letsGo P c.schema → P p := by
  induction h with
  | @leaf c o p hplan hp =>
    intro within
    have hsuits := rs.plan_suits c
    rw [hplan] at hsuits
    rcases hsuits with ⟨verdict, rfl⟩ | ⟨check, hschema, rfl⟩
    · cases hp with
      | ready ho =>
        obtain ⟨rfl, hverdict⟩ := ho
        exact law.done _
      | pending ho _ => cases ho.2
    · have hcheck := within.leaves c.schema (.here _)
      rw [hschema] at hcheck
      exact hcheck c.value c.path p hp
  | same hplan _ ih => exact fun within => ih (within.of_makes (hplan ▸ rfl))
  | every hplan _ ih =>
    intro within
    refine law.map _ (law.together (fun p hp => ?_) _)
    obtain ⟨x, hx, rfl⟩ := List.mem_map.1 hp
    exact ih x hx (within.of_makes (hplan ▸ List.mem_map_of_mem hx))
  | @accepted c xs s rest v path q hplan hxs _ hq haccepts ih ihq =>
    intro within
    have hsuits := rs.plan_suits c
    rw [hplan] at hsuits
    obtain ⟨hschema, -, rfl, rfl⟩ := hsuits
    refine law.accepted (fun p hp hlater e he => ?_) (fun p hp => ?_) (ihq ?_) haccepts
    · obtain ⟨x, hx, rfl⟩ := List.mem_map.1 hp
      exact within.letsGo c e ⟨xs.map Prod.fst, s, rest, x.1, x.2, q, hschema, .here _, List.mem_map_of_mem hx,
        hxs x hx, hlater, he, hq, haccepts⟩
    · obtain ⟨x, hx, rfl⟩ := List.mem_map.1 hp
      have hmem : x.1 ∈ xs.map Prod.fst ++ s :: rest := List.mem_append_left _ (List.mem_map_of_mem hx)
      exact ih x hx (within.of_makes (hplan ▸ ⟨x.1, hmem, rfl⟩))
    · have hmem : s ∈ xs.map Prod.fst ++ s :: rest := List.mem_append_right _ List.mem_cons_self
      exact within.of_makes (hplan ▸ ⟨s, hmem, rfl⟩)
  | undecided hplan _ _ ih =>
    intro within
    refine law.together (fun p hp => ?_) _
    obtain ⟨x, hx, rfl⟩ := List.mem_map.1 hp
    exact ih x hx (within.of_makes (hplan ▸ ⟨x.1, List.mem_map_of_mem hx, rfl⟩))
  | @supplied c supplier path call v p q hplan hp hanswer _ ih =>
    intro within
    obtain ⟨inner, hschema⟩ := hplan ▸ rs.plan_suits c
    have hstep := within.steps c.schema (.here _) supplier.step (by rw [hschema, Schema.step?])
    obtain ⟨answer, rfl⟩ := Supplier.exists_course_of_takes hp
    have hgives : supplier.Gives v := supplier.gives_of_ends (hanswer ▸ hp.ends)
    exact law.andThen (law.step _ hstep) (ih (within.of_makes (hplan ▸ ⟨v, hgives, rfl⟩)))
  | @unsupplied c supplier path call reason p hplan hp _ =>
    intro within
    obtain ⟨inner, hschema⟩ := hplan ▸ rs.plan_suits c
    have hstep := within.steps c.schema (.here _) supplier.step (by rw [hschema, Schema.step?])
    obtain ⟨answer, rfl⟩ := Supplier.exists_course_of_takes hp
    exact law.map _ (law.step _ hstep)
  | @effect c d step judge v p q hplan _ _ hq ih =>
    intro within
    have hsuits := rs.plan_suits c
    rw [hplan] at hsuits
    have hstep := within.steps c.schema (.here _) step hsuits
    obtain rfl := Step.eq_course_of_takes hq
    exact law.andThen (ih (within.of_makes (hplan ▸ rfl))) (law.step _ hstep)
  | refused hplan _ _ ih => exact fun within => ih (within.of_makes (hplan ▸ rfl))

end Registries
end Schemata
