import Schemata.Proofs.Pending
/-!
# Settlement — every step that is begun settles once

An array and an object start every child, each once and in order, before they return (`Registries.start_array`,
`Registries.start_object`).  When a validation is awaited to its end, what settles is what was begun and not let go
of: on every course the late steps begun and the steps settled balance (`Course.Balanced`), and nothing that a union
lets go of settles or goes on.
-/
namespace Schemata

variable {α β : Type}

/-- The step that settles in an event, if one does. -/
def Event.settled? : Event → Option Step
  | .invoked _ => none
  | .settled s => some s

def Note.settled? (n : Note) : Option Step := n.event.settled?

/-! ## Children are started in order -/

/-- The launch with its answer changed, at once if it is there and else when it comes. -/
def Launch.map (f : α → β) : Launch α → Launch β
  | .ready a => .ready (f a)
  | .pending work => .pending (work.map f)

namespace Outcome

/-- A chain goes on at once from an answer that is there. -/
theorem start_bind_of_ready (f : α → Outcome β) : ∀ (o : Outcome α) {counters : Counters} {a : α},
    (o.start counters).result = .ready a →
      (o.bind f).start counters = ((f a).start (o.start counters).counters).afterAll (o.start counters).log
  | .ready a, _, _, h => by
    obtain rfl := Launch.ready.inj h
    rfl
  | .record e rest, counters, _, h => by
    rw [bind_record, start, start_bind_of_ready f rest h]
    rfl
  | .draw c rest, counters, _, h => start_bind_of_ready f (rest (counters c)) h

/-- **An answer is changed at once if it is there, and else when it comes.** -/
theorem start_map_eq (f : α → β) : ∀ (o : Outcome α) (counters : Counters),
    (o.map f).start counters = (o.start counters).map (Launch.map f)
  | .ready _, _ => rfl
  | .pending _, _ => rfl
  | .record e rest, counters => congrArg (Run.after e) (start_map_eq f rest counters)
  | .draw c rest, counters => start_map_eq f (rest (counters c)) (counters.advance c)

theorem start_map (f : α → β) (o : Outcome α) (counters : Counters) :
    ((o.map f).start counters).log = (o.start counters).log ∧
      ((o.map f).start counters).counters = (o.start counters).counters := by
  rw [start_map_eq]
  exact ⟨rfl, rfl⟩

theorem start_launchAll : ∀ (os : List (Outcome α)) (counters : Counters),
    (launchAll os).start counters = (startAll os counters).map .ready
  | [], _ => rfl
  | o :: rest, counters => by
    have ih := start_launchAll rest (o.start counters).counters
    rw [launchAll, start_launch_bind, map, start_bind_of_ready _ _ (by rw [ih]; rfl), ih]
    simp [start, startAll, Run.map, Run.afterAll]

theorem start_join_eq (os : List (Outcome α)) (counters : Counters) :
    (join os).start counters = ((Launch.join (startAll os counters).result).start
      (startAll os counters).counters).afterAll (startAll os counters).log := by
  have hall := start_launchAll os counters
  rw [join, start_bind_of_ready Launch.join _ (by rw [hall]; rfl), hall]
  rfl

/-- **Joining starts every outcome**, each once and in order, whatever the others come to. -/
theorem start_join (os : List (Outcome α)) (counters : Counters) :
    ((join os).start counters).log = (startAll os counters).log ∧
      ((join os).start counters).counters = (startAll os counters).counters := by
  rw [start_join_eq]
  rcases Launch.join_cases (startAll os counters).result with ⟨as, -, hjoin⟩ | ⟨-, hjoin⟩ <;>
    simp [hjoin, start, Run.afterAll]

theorem settle_eq_await (o : Outcome α) (counters : Counters) :
    o.settle counters =
      ((o.start counters).result.await (o.start counters).counters).afterAll (o.start counters).log := by
  rw [settle_eq]
  cases (o.start counters).result with
  | ready a => simp [Launch.await, Run.afterAll]
  | pending w => rfl

end Outcome

namespace Registries

/-- What a call does that gathers the verdicts of others, up to where it returns. -/
theorem start_of_every {rs : Registries} {c : Call} {calls : List Call} {decide : List (Verdict Value) → Verdict Value}
    (hplan : rs.plan c = .every calls decide) (counters : Counters) :
    ((rs.validate c).start counters).log = (Outcome.startAll (calls.map rs.validate) counters).log ∧
      ((rs.validate c).start counters).counters = (Outcome.startAll (calls.map rs.validate) counters).counters := by
  rw [validate_eq_plan, hplan, Plan.outcome, (Outcome.start_map decide _ counters).1,
    (Outcome.start_map decide _ counters).2]
  exact Outcome.start_join _ counters

theorem start_array (rs : Registries) (rules : Rules LengthRule) (item : Schema) (items : List Value) (path : Path)
    (counters : Counters) :
    let asked := (rs.check (.array rules item) (.array items) path).start counters
    let children := Outcome.startAll (items.mapIdx fun i v => rs.check item v (path.index i)) counters
    asked.log = children.log ∧ asked.counters = children.counters := by
  have h := rs.start_of_every (c := ⟨.array rules item, .array items, path⟩) rfl counters
  rw [map_mapIdx] at h
  exact h

theorem start_object (rs : Registries) (shape : Shape Schema) (entries : Entries Value) (path : Path)
    (counters : Counters) :
    let asked := (rs.check (.object shape) (.object entries) path).start counters
    let children := Outcome.startAll
      (shape.fields.map fun f => rs.check f.2 ((Entries.get? entries f.1).getD .undefined) (path.field f.1)) counters
    asked.log = children.log ∧ asked.counters = children.counters := by
  have h := rs.start_of_every (c := ⟨.object shape, .object entries, path⟩) rfl counters
  rw [List.map_map] at h
  exact h

end Registries

/-! ## What is begun settles -/

namespace Course

/-- **What settles is what was begun**: nothing settles before the call returns, nothing settles that a union has let go
of, and each late step begun and not let go of settles as often as it was begun. -/
structure Balanced (p : Course α) : Prop where
  first : ∀ n ∈ p.first, n.settled? = none
  letGo : ∀ n ∈ p.notes, n.letGoBy ≠ none → n.settled? = none
  balance : (p.notes.filterMap Note.begun?).Perm (p.notes.filterMap Note.settled?)

namespace Balanced

/-- A call that is ready has begun nothing that was not let go of. -/
theorem begun_of_ready {p : Course α} (h : p.Balanced) (hready : p.later = none) :
    p.first.filterMap Note.begun? = [] := by
  have hnotes : p.notes = p.first := by rw [notes, hready, Option.getD_none, List.append_nil]
  have hbalance := h.balance
  rw [hnotes, List.filterMap_eq_nil_iff.2 h.first] at hbalance
  exact hbalance.eq_nil

theorem andThen {p : Course α} {q : Course β} (hp : p.Balanced) (hq : q.Balanced) : (p.andThen q).Balanced where
  first n hn := by
    unfold Course.andThen at hn
    cases hlater : p.later with
    | none =>
      rw [hlater] at hn
      exact (List.mem_append.1 hn).elim (hp.first n) (hq.first n)
    | some later =>
      rw [hlater] at hn
      exact hp.first n hn
  letGo n hn := by
    rw [notes_andThen] at hn
    exact (List.mem_append.1 hn).elim (hp.letGo n) (hq.letGo n)
  balance := by
    rw [notes_andThen, List.filterMap_append, List.filterMap_append]
    exact hp.balance.append hq.balance

theorem together {ps : List (Course α)} (h : ∀ p ∈ ps, p.Balanced) (b : β) :
    (⟨ps.flatMap Course.first, laterOfAll ps, b⟩ : Course β).Balanced where
  first n hn := by
    obtain ⟨p, hp, hn⟩ := List.mem_flatMap.1 hn
    exact (h p hp).first n hn
  letGo n hn := by
    obtain ⟨p, hp, hn⟩ := List.mem_flatMap.1 ((notes_together ps b).mem_iff.1 hn)
    exact (h p hp).letGo n hn
  balance := by
    have hnotes := notes_together ps b
    refine (hnotes.filterMap _).trans (.trans ?_ (hnotes.filterMap _).symm)
    rw [List.filterMap_flatMap, List.filterMap_flatMap]
    exact List.Perm.flatMap_left ps fun p hp => (h p hp).balance

theorem settled_leftBy (c : Call) {p : Course α} (h : p.Balanced) {n : Note} (hn : n ∈ p.leftBy c) :
    n.settled? = none := by
  obtain ⟨m, hm, rfl | rfl⟩ := mem_leftBy hn
  · exact h.first n hm
  · exact h.first m hm

theorem accepted (c : Call) {ps : List (Course (Verdict Value))} {q : Course (Verdict Value)}
    (h : ∀ p ∈ ps, p.Balanced) (hq : q.Balanced) (haccepts : q.Accepts) : (Course.accepted c ps q).Balanced := by
  have hfirst : ∀ n ∈ (Course.accepted c ps q).first, n.settled? = none := by
    intro n hn
    rcases List.mem_append.1 hn with hn | hn
    · obtain ⟨p, hp, hn⟩ := List.mem_flatMap.1 hn
      exact (h p hp).settled_leftBy c hn
    · exact hq.first n hn
  have hnotes : (Course.accepted c ps q).notes = (Course.accepted c ps q).first := List.append_nil _
  have hbegun : (Course.accepted c ps q).first.filterMap Note.begun? = [] := by
    have hps : (ps.flatMap (leftBy c)).filterMap Note.begun? = [] := by
      rw [List.filterMap_flatMap]
      exact List.flatMap_eq_nil_iff.2 fun p hp => begun_leftBy c (h p hp).begun_of_ready
    simp only [Course.accepted, List.filterMap_append, hps, List.nil_append]
    exact hq.begun_of_ready haccepts.1
  refine ⟨hfirst, fun n hn _ => hfirst n (hnotes ▸ hn), ?_⟩
  rw [hnotes, hbegun, List.filterMap_eq_nil_iff.2 hfirst]

end Balanced

theorem balanced_law (steps : Step → Prop) (letsGo : Call → Event → Prop) : Law steps letsGo @Balanced where
  done _ := ⟨nofun, nofun, .refl _⟩
  step {_ s} a _ := by
    have hnotes : ∀ n ∈ (s.course a).notes, n.letGoBy = none := by
      unfold notes Step.course
      cases s.late <;> simp [Note.kept]
    refine ⟨fun n hn => ?_, fun n hn h => absurd (hnotes n hn) h, ?_⟩
    · rw [List.mem_singleton.1 hn]
      rfl
    · unfold notes Step.course
      cases hs : s.late <;>
        simp [List.filterMap_cons, Note.begun?, Note.settled?, Event.begun?, Event.settled?, Note.kept, hs]
  map _ _ h := ⟨h.first, h.letGo, h.balance⟩
  andThen := .andThen
  together := .together
  accepted _ := .accepted _

end Course

/-- Nothing in the courses of an outcome by itself is let go of. -/
theorem Outcome.Takes.letGoBy_eq_none {o : Outcome α} {p : Course α} (h : o.Takes p) :
    ∀ n ∈ p.notes, n.letGoBy = none := by
  have kept : ∀ {n : Note} {log : List Event}, n ∈ log.map Note.kept → n.letGoBy = none := by
    intro n log hn
    obtain ⟨e, -, rfl⟩ := List.mem_map.1 hn
    rfl
  intro n hn
  rcases List.mem_append.1 hn with hn | hn
  · cases h <;> exact kept hn
  · cases h with
    | ready => cases hn
    | pending => exact kept hn

theorem Schema.obeys_traced (t : Schema) (letsGo : Call → Event → Prop) :
    t.Obeys (Course.Traced (fun _ => True) letsGo) := by
  cases t with
  | custom check =>
    intro v path p hp n hn
    exact ⟨fun _ _ => trivial, fun d hd => nomatch (hp.letGoBy_eq_none n hn).symm.trans hd⟩
  | _ => trivial

/-- A run has the events of the course that tells it. -/
theorem Course.Tells.perm {p : Course α} {log log' : List Event} {pending : Bool} {a : α}
    (h : p.Tells log pending log' a) : (p.notes.map Note.event).Perm (log ++ log') := by
  rw [Course.notes, List.map_append, h.first]
  exact h.later.append_left log

namespace Registries

variable {rs : Registries} {s : Schema} {v : Value} {path : Path} {p : Course (Verdict Value)}

theorem Takes.balanced (h : rs.Takes ⟨s, v, path⟩ p) (books : ∀ t, rs.Reaches s t → t.Obeys Course.Balanced) :
    p.Balanced :=
  h.law (Course.balanced_law (fun _ => True) fun _ _ => True) ⟨books, fun _ _ _ _ => trivial, fun _ _ _ => trivial⟩

/-- What was let go of on the course of a call was let go of by a union that the schema leads to. -/
theorem Takes.letsGo (h : rs.Takes ⟨s, v, path⟩ p) {n : Note} (hn : n ∈ p.notes) {d : Call} (hd : n.letGoBy = some d) :
    rs.LetsGo s d n.event :=
  (h.law (Course.traced_law (fun _ => True) (rs.LetsGo s))
    ⟨fun t _ => t.obeys_traced _, fun _ _ _ _ => trivial, fun _ _ hd => hd⟩ n hn).2 d hd

/-- **No step is lost, done twice or done out of turn.**  An array and an object start the validation of every item
and of every field, each once and in order, before they return, whatever the others come to.  Let the users' checks be
balanced.  Awaited to its end, a validation has the events of a course on which a late step settles exactly as often as
it is begun and not let go of, and nothing settles before the validation returns.  What is let go of was done by a
pending candidate of a union before it returned, a later candidate accepted at once, and nothing of it settles.  Where
no union can be reached, every late step that was called settles, once for each call. -/
theorem begun_steps_settle_once (rs : Registries) (s : Schema) (v : Value) (path : Path) (counters : Counters) :
    let started := (rs.check s v path).start counters
    let awaited := started.result.await started.counters
    let settled := (rs.check s v path).settle counters
    (∀ rules item items, s = .array rules item → v = .array items →
      let children := Outcome.startAll (items.mapIdx fun i w => rs.check item w (path.index i)) counters
      started.log = children.log ∧ started.counters = children.counters) ∧
    (∀ shape entries, s = .object shape → v = .object entries →
      let children := Outcome.startAll
        (shape.fields.map fun f => rs.check f.2 ((Entries.get? entries f.1).getD .undefined) (path.field f.1)) counters
      started.log = children.log ∧ started.counters = children.counters) ∧
    settled.log = started.log ++ awaited.log ∧
    ((∀ t, rs.Reaches s t → t.Obeys Course.Balanced) →
      (∃ p, rs.Takes ⟨s, v, path⟩ p ∧ p.Tells started.log started.result.isPending awaited.log awaited.result ∧
        (∀ e ∈ started.log, e.settled? = none) ∧
        (p.notes.filterMap Note.begun?).Perm (settled.log.filterMap Event.settled?) ∧
        ∀ n ∈ p.notes, ∀ d, n.letGoBy = some d → n.settled? = none ∧ rs.LetsGo s d n.event) ∧
      ((∀ candidates, ¬ rs.Reaches s (.union candidates)) →
        (settled.log.filterMap Event.begun?).Perm (settled.log.filterMap Event.settled?))) := by
  intro started awaited settled
  have hsettled : settled.log = started.log ++ awaited.log :=
    congrArg Run.log ((rs.check s v path).settle_eq_await counters)
  refine ⟨?_, ?_, hsettled, fun books => ?_⟩
  · rintro rules item items rfl rfl
    exact rs.start_array rules item items path counters
  · rintro shape entries rfl rfl
    exact rs.start_object shape entries path counters
  obtain ⟨p, hp, htells⟩ := rs.exists_course s v path counters
  have hbalanced := hp.balanced books
  have hevents : (p.notes.map Note.event).Perm settled.log := hsettled ▸ htells.perm
  have hbegun : (p.notes.filterMap Note.begun?).Perm (settled.log.filterMap Event.settled?) := by
    refine hbalanced.balance.trans ?_
    have h := hevents.filterMap Event.settled?
    rwa [List.filterMap_map] at h
  refine ⟨⟨p, hp, htells, ?_, hbegun, fun n hn d hd => ⟨?_, hp.letsGo hn hd⟩⟩, fun hunion => ?_⟩
  · rw [← htells.first]
    exact List.forall_mem_map.2 hbalanced.first
  · exact hbalanced.letGo n hn (hd ▸ Option.some_ne_none d)
  · -- without unions nothing is let go of, so what was begun can be read off the log
    have hkept : ∀ n ∈ p.notes, n.begun? = n.event.begun? := by
      intro n hn
      unfold Note.begun?
      cases hlet : n.letGoBy with
      | none => rfl
      | some d =>
        obtain ⟨before, t, after, -, -, -, hd, hr, -⟩ := hp.letsGo hn hlet
        exact absurd (hd ▸ hr) (hunion (before ++ t :: after))
    have h := hevents.filterMap Event.begun?
    rw [List.filterMap_map] at h
    refine h.symm.trans (.trans (.of_eq ?_) hbegun)
    exact List.filterMap_congr fun n hn => (hkept n hn).symm

/-- The test whether a text is approved, which is found out later still. -/
def approval : Refinement Value := ⟨fun _ => true, "must be approved", ⟨some "approval", .deferred 2⟩⟩

/-- Texts that are approved, whether empty or not. -/
def approvedTexts : Schema := .array .empty (.refine emptyOrAny approval)

theorem ne_custom_approvedTexts {t : Schema} (h : empty.Reaches approvedTexts t) (check : Check) :
    t ≠ .custom check := by
  cases h with
  | here => nofun
  | child hc h =>
    obtain rfl := List.mem_singleton.1 hc
    cases h with
    | here => nofun
    | child hc h =>
      obtain rfl := List.mem_singleton.1 hc
      exact ne_custom_emptyOrAny h check

/-- Two texts are asked for approval, which settles for both; of their tests for emptiness the union has let go. -/
theorem approvals_settle :
    (∀ t, empty.Reaches approvedTexts t → t.Obeys Course.Balanced) ∧
      ∃ p, empty.Takes ⟨approvedTexts, .array [.string "a", .string "b"], .root⟩ p ∧
        (p.notes.filterMap Note.begun?).Perm [approval.step, approval.step] ∧
        ∃ n ∈ p.notes, n.event = .invoked emptiness.step ∧
          ∃ d, n.letGoBy = some d ∧ empty.LetsGo approvedTexts d (.invoked emptiness.step) := by
  have books : ∀ t, empty.Reaches approvedTexts t → t.Obeys Course.Balanced := fun t ht =>
    Schema.obeys_of_ne_custom (ne_custom_approvedTexts ht)
  refine ⟨books, ?_⟩
  have once := begun_steps_settle_once empty approvedTexts (.array [.string "a", .string "b"]) .root .fresh
  obtain ⟨p, hp, htells, -, hbegun, hletGo⟩ := (once.2.2.2 books).1
  have hsettled : (((empty.check approvedTexts (.array [.string "a", .string "b"]) .root).settle .fresh).log.filterMap
      Event.settled?) = [approval.step, approval.step] := by rfl
  rw [hsettled] at hbegun
  have hlog : ((empty.check approvedTexts (.array [.string "a", .string "b"]) .root).start .fresh).log =
      [.invoked emptiness.step, .invoked approval.step, .invoked emptiness.step, .invoked approval.step] := by rfl
  obtain ⟨n, hn, hevent⟩ : ∃ n ∈ p.first, n.event = .invoked emptiness.step := by
    rw [← List.mem_map, htells.first, hlog]
    exact List.mem_cons_self
  have hn : n ∈ p.notes := List.mem_append_left _ hn
  refine ⟨p, hp, hbegun, n, hn, hevent, ?_⟩
  cases hlet : n.letGoBy with
  | some d => exact ⟨d, rfl, hevent ▸ (hletGo n hn d hlet).2⟩
  | none =>
    have hstep : n.begun? = some emptiness.step :=
      Note.begun?_eq_some_iff.2 ⟨hlet, Event.begun?_eq_some_iff.2 ⟨hevent, rfl⟩⟩
    have hmem : emptiness.step ∈ [approval.step, approval.step] :=
      hbegun.mem_iff.1 (List.mem_filterMap.2 ⟨n, hn, hstep⟩)
    simp [emptiness, approval] at hmem

end Registries
end Schemata
