import Schemata.Parse
import Schemata.Proofs.Tellings
/-!
# Pending — a late step that was begun is waited for

A step is late when its answer is deferred.  On every course the call is pending exactly when a late step was begun
before it returned of which no union has let go (`Course.Telling`).  So without late steps nothing is pending, without
unions every late step that was begun shows, and one that does not show was let go of by a union that had an output at
once.
-/
namespace Schemata

variable {α β : Type}

/-- The late step that is begun in an event, if one is. -/
def Event.begun? : Event → Option Step
  | .invoked s => if s.late then some s else none
  | .settled _ => none

/-- The late step that is begun in a note, unless a union has let go of it. -/
def Note.begun? (n : Note) : Option Step :=
  match n.letGoBy with
  | none => n.event.begun?
  | some _ => none

theorem Event.begun?_eq_some_iff {e : Event} {s : Step} : e.begun? = some s ↔ e = .invoked s ∧ s.late = true := by
  cases e with
  | invoked t =>
    rw [begun?]
    split
    · rename_i h
      exact ⟨fun ht => Option.some.inj ht ▸ ⟨rfl, h⟩, fun ht => congrArg some (Event.invoked.inj ht.1)⟩
    · rename_i h
      exact ⟨nofun, fun ht => absurd (Event.invoked.inj ht.1 ▸ ht.2) h⟩
  | settled t => exact ⟨nofun, fun ht => nomatch ht.1⟩

theorem Note.begun?_eq_some_iff {n : Note} {s : Step} :
    n.begun? = some s ↔ n.letGoBy = none ∧ n.event.begun? = some s := by
  unfold Note.begun?
  cases n.letGoBy with
  | none => exact ⟨fun h => ⟨rfl, h⟩, fun h => h.2⟩
  | some d => exact ⟨nofun, fun h => nomatch h.1⟩

/-- A user's check that is there at once and begins no late step, whatever numbers are drawn; and any other node. -/
def Schema.Prompt : Schema → Prop
  | .custom check => ∀ v path log launch, (check v path).Opens log launch →
      launch.isPending = false ∧ ∀ e ∈ log, e.begun? = none
  | _ => True

theorem Schema.prompt_of_ne_custom {t : Schema} (h : ∀ check, t ≠ .custom check) : t.Prompt := by
  cases t with
  | custom check => exact absurd rfl (h check)
  | _ => trivial

/-! ## The entry points -/

namespace Outcome

variable {o : Outcome (Verdict α)} {counters : Counters}

/-- **A caller that does not wait is told of pending work**: as a refusal, or as one issue at the root. -/
theorem parse_of_pending (h : (o.start counters).result.isPending = true) :
    (o.parse counters).result = .error .mustWait ∧
      (o.safeParse counters).result = .error ⟨[⟨.root, .custom, mustWaitText⟩]⟩ := by
  have hparse : (o.parse counters).result = .error .mustWait := by
    rw [parse, Run.map]
    cases hl : (o.start counters).result with
    | ready verdict => rw [hl] at h; cases h
    | pending w => rfl
  exact ⟨hparse, by rw [safeParse, Run.map, hparse]; rfl⟩

/-- **What is ready is reported alike to all callers.** -/
theorem parse_of_ready {verdict : Verdict α} (h : (o.start counters).result = .ready verdict) :
    (o.parse counters).result = verdict.mapError .invalid ∧ (o.safeParse counters).result = verdict ∧
      (o.parseAsync counters).result = verdict ∧ (o.safeParseAsync counters).result = verdict := by
  have hparse : (o.parse counters).result = verdict.mapError .invalid := by
    rw [parse, Run.map, h]
    cases verdict <;> rfl
  have hasync : (o.parseAsync counters).result = verdict := by rw [parseAsync, settle_eq, h]
  refine ⟨hparse, ?_, hasync, ?_⟩
  · rw [safeParse, Run.map, hparse]
    cases verdict <;> rfl
  · rw [safeParseAsync, Run.map, hasync]
    cases verdict <;> rfl

end Outcome

/-! ## What is pending has begun something -/

namespace Course

/-- **The call is pending exactly when it has begun a late step** of which no union has let go. -/
def Telling (p : Course α) : Prop := p.later = none ↔ p.first.filterMap Note.begun? = []

theorem telling_andThen {p : Course α} {q : Course β} (hp : p.Telling) (hq : q.Telling) : (p.andThen q).Telling := by
  unfold Telling at hp hq ⊢
  unfold Course.andThen
  cases hlater : p.later with
  | none => simp [List.filterMap_append, hp.1 hlater, hq]
  | some later =>
    have hne : p.first.filterMap Note.begun? ≠ [] := fun h => nomatch hlater.symm.trans (hp.2 h)
    exact ⟨nofun, fun h => absurd h hne⟩

/-- Of a candidate that a union lets go of, nothing that it has begun is left to be waited for. -/
theorem begun_leftBy (c : Call) {p : Course α} (h : p.later = none → p.first.filterMap Note.begun? = []) :
    (p.leftBy c).filterMap Note.begun? = [] := by
  unfold leftBy
  cases hlater : p.later with
  | none => exact h hlater
  | some later =>
    refine List.filterMap_eq_nil_iff.2 fun n hn => ?_
    obtain ⟨m, -, rfl⟩ := List.mem_map.1 hn
    rfl

theorem telling_law (steps : Step → Prop) (letsGo : Call → Event → Prop) : Law steps letsGo @Telling where
  done _ := ⟨fun _ => rfl, fun _ => rfl⟩
  step {_ s} a _ := by
    unfold Telling Step.course
    cases hs : s.late <;> simp [Note.begun?, Note.kept, Event.begun?, hs]
  map _ _ h := h
  andThen := telling_andThen
  together h _ := by
    unfold Telling
    rw [laterOfAll_eq_none_iff, List.filterMap_flatMap, List.flatMap_eq_nil_iff]
    exact forall₂_congr h
  accepted {c ps q} _ h hq haccepts := by
    have hps : (ps.flatMap (leftBy c)).filterMap Note.begun? = [] := by
      rw [List.filterMap_flatMap]
      exact List.flatMap_eq_nil_iff.2 fun p hp => begun_leftBy c (h p hp).1
    refine ⟨fun _ => ?_, fun _ => rfl⟩
    simp only [accepted, List.filterMap_append, hps, List.nil_append]
    exact hq.1 haccepts.1

/-! ## Where notes come from -/

/-- **Every late step is one of `steps`, and what was let go of was let go of as `letsGo` says.** -/
def Traced (steps : Step → Prop) (letsGo : Call → Event → Prop) (p : Course α) : Prop :=
  ∀ n ∈ p.notes, (∀ s, n.event.begun? = some s → steps s) ∧ ∀ d, n.letGoBy = some d → letsGo d n.event

theorem traced_leftBy {steps : Step → Prop} {letsGo : Call → Event → Prop} {c : Call} {p : Course α}
    (h : p.Traced steps letsGo) (hgo : p.later ≠ none → ∀ e, .kept e ∈ p.first → letsGo c e) {n : Note}
    (hn : n ∈ p.leftBy c) : (∀ s, n.event.begun? = some s → steps s) ∧ ∀ d, n.letGoBy = some d → letsGo d n.event := by
  unfold leftBy at hn
  cases hlater : p.later with
  | none =>
    rw [hlater] at hn
    exact h n (List.mem_append_left _ hn)
  | some later =>
    rw [hlater] at hn
    obtain ⟨m, hm, rfl⟩ := List.mem_map.1 hn
    obtain ⟨hsteps, hletsGo⟩ := h m (List.mem_append_left _ hm)
    refine ⟨hsteps, fun d hd => ?_⟩
    obtain rfl := Option.some.inj hd
    obtain ⟨e, letGoBy⟩ := m
    cases letGoBy with
    | none => exact hgo (hlater ▸ Option.some_ne_none later) e hm
    | some d => exact hletsGo d rfl

theorem traced_law (steps : Step → Prop) (letsGo : Call → Event → Prop) : Law steps letsGo (Traced steps letsGo) where
  done _ := nofun
  step {_ s} a hs n hn := by
    have hevent : n = .kept (.invoked s) ∨ n = .kept (.settled s) := by
      unfold notes Step.course at hn
      split at hn
      · simpa using hn
      · exact .inl (by simpa using hn)
    rcases hevent with rfl | rfl
    · exact ⟨fun t ht => Event.invoked.inj (Event.begun?_eq_some_iff.1 ht).1 ▸ hs, nofun⟩
    · exact ⟨nofun, nofun⟩
  map _ _ h := h
  andThen hp hq n hn := by
    rw [notes_andThen] at hn
    exact (List.mem_append.1 hn).elim (hp n) (hq n)
  together h b n hn := by
    obtain ⟨p, hp, hn⟩ := List.mem_flatMap.1 ((notes_together _ b).mem_iff.1 hn)
    exact h p hp n hn
  accepted {c ps q} hgo h hq _ n hn := by
    simp only [notes, accepted, Option.getD_none, List.append_nil] at hn
    rcases List.mem_append.1 hn with hn | hn
    · obtain ⟨p, hp, hn⟩ := List.mem_flatMap.1 hn
      exact traced_leftBy (h p hp) (hgo p hp) hn
    · exact hq n (List.mem_append_left _ hn)

end Course

namespace Schema.Prompt

theorem obeys_telling {t : Schema} (h : t.Prompt) : t.Obeys Course.Telling := by
  cases t with
  | custom check =>
    rintro v path p (ho | ⟨ho, -⟩)
    · refine ⟨fun _ => ?_, fun _ => rfl⟩
      rw [List.filterMap_map]
      exact List.filterMap_eq_nil_iff.2 (h v path _ _ ho).2
    · cases (h v path _ _ ho).1
  | _ => trivial

theorem obeys_traced {t : Schema} (h : t.Prompt) (steps : Step → Prop) (letsGo : Call → Event → Prop) :
    t.Obeys (Course.Traced steps letsGo) := by
  cases t with
  | custom check =>
    rintro v path p (ho | ⟨ho, -⟩)
    · intro n hn
      obtain ⟨e, he, rfl⟩ : ∃ e ∈ _, Note.kept e = n := by simpa [Course.notes] using hn
      have hnone : e.begun? = none := (h v path _ _ ho).2 e he
      refine ⟨fun s hs => ?_, fun d hd => ?_⟩
      · cases hs.symm.trans hnone
      · cases hd
    · cases (h v path _ _ ho).1
  | _ => trivial

end Schema.Prompt

namespace Registries

variable {rs : Registries} {s : Schema}

theorem Takes.telling {v : Value} {path : Path} {p : Course (Verdict Value)} (h : rs.Takes ⟨s, v, path⟩ p)
    (prompt : ∀ t, rs.Reaches s t → t.Prompt) : p.Telling :=
  h.law (Course.telling_law (fun _ => True) fun _ _ => True)
    ⟨fun t ht => (prompt t ht).obeys_telling, fun _ _ _ _ => trivial, fun _ _ _ => trivial⟩

theorem Takes.traced {v : Value} {path : Path} {p : Course (Verdict Value)} (h : rs.Takes ⟨s, v, path⟩ p)
    (prompt : ∀ t, rs.Reaches s t → t.Prompt) :
    p.Traced (fun step => ∃ t, rs.Reaches s t ∧ t.step? = some step) (rs.LetsGo s) :=
  h.law (Course.traced_law _ _)
    ⟨fun t ht => (prompt t ht).obeys_traced _ _, fun t ht _ hstep => ⟨t, ht, hstep⟩, fun _ _ hd => hd⟩

/-- **What is started, and then awaited, takes a course.** -/
theorem exists_course (rs : Registries) (s : Schema) (v : Value) (path : Path) (counters : Counters) :
    let started := (rs.check s v path).start counters
    let awaited := started.result.await started.counters
    ∃ p, rs.Takes ⟨s, v, path⟩ p ∧ p.Tells started.log started.result.isPending awaited.log awaited.result := by
  intro started awaited
  have hrun : started.result.toDeferred.Runs awaited.log awaited.result := by
    have h := Deferred.runs_await started.result.toDeferred started.counters
    have hawait : started.result.toDeferred.await started.counters = awaited := by
      simp only [awaited]
      cases started.result <;> rfl
    rwa [hawait] at h
  exact rs.explained_validate ⟨s, v, path⟩ _ _ _ _ (Outcome.opens_start _ counters) hrun

/-- **A validation is pending when a late step was begun**, and when none was it is not.  Let the users' checks be
ready and begin no late step.  Where no late step can be reached, validation is ready.  Where no union can be reached,
it is pending exactly when a late step was called before it returned.  Where it is ready all the same, each late step
that was called was begun for a candidate of a union that let go of it, having another candidate's output at once.  A
caller that does not wait is told of pending work, as a refusal or as one issue at the root; and what is ready is
reported alike to all callers. -/
theorem pending_iff_begun {rs : Registries} {s : Schema} (prompt : ∀ t, rs.Reaches s t → t.Prompt) (v : Value)
    (path : Path) (counters : Counters) :
    let started := (rs.check s v path).start counters
    ((∀ t step, rs.Reaches s t → t.step? = some step → step.late = false) → started.result.isPending = false) ∧
    ((∀ candidates, ¬ rs.Reaches s (.union candidates)) →
      (started.result.isPending = true ↔ ∃ step, step.late = true ∧ .invoked step ∈ started.log)) ∧
    (started.result.isPending = false → ∃ p, rs.Takes ⟨s, v, path⟩ p ∧ p.later = none ∧
      p.first.map Note.event = started.log ∧ ∀ n ∈ p.first, ∀ step, n.event = .invoked step → step.late = true →
        ∃ d, n.letGoBy = some d ∧ rs.LetsGo s d (.invoked step)) ∧
    (∀ (o : Outcome (Verdict Value)),
      ((o.start counters).result.isPending = true →
        (o.parse counters).result = .error .mustWait ∧
          (o.safeParse counters).result = .error ⟨[⟨.root, .custom, mustWaitText⟩]⟩) ∧
      ∀ verdict, (o.start counters).result = .ready verdict →
        (o.parse counters).result = verdict.mapError .invalid ∧ (o.safeParse counters).result = verdict ∧
          (o.parseAsync counters).result = verdict ∧ (o.safeParseAsync counters).result = verdict) := by
  intro started
  obtain ⟨p, hp, hfirst, hpending, -, -⟩ := rs.exists_course s v path counters
  have htelling := hp.telling prompt
  have htraced := hp.traced prompt
  refine ⟨fun hlate => ?_, fun hunion => ?_, fun hready => ?_, fun o => ⟨fun hp => ?_, fun verdict hverdict => ?_⟩⟩
  · have hnone : p.first.filterMap Note.begun? = [] := by
      refine List.filterMap_eq_nil_iff.2 fun n hn => Option.eq_none_iff_forall_ne_some.2 fun step hstep => ?_
      have hevent := Note.begun?_eq_some_iff.1 hstep
      obtain ⟨t, ht, htstep⟩ := (htraced n (List.mem_append_left _ hn)).1 step hevent.2
      have hfalse := hlate t step ht htstep
      rw [(Event.begun?_eq_some_iff.1 hevent.2).2] at hfalse
      cases hfalse
    rw [← hpending, htelling.2 hnone, Option.isSome_none]
  · have hkept : ∀ n ∈ p.first, n.letGoBy = none := fun n hn => Option.eq_none_iff_forall_ne_some.2 fun d hd => by
      obtain ⟨before, t, after, -, -, -, hd, hr, -⟩ := (htraced n (List.mem_append_left _ hn)).2 d hd
      exact hunion (before ++ t :: after) (hd ▸ hr)
    have htold : p.later = none ↔ ∀ n ∈ p.first, n.begun? = none := htelling.trans List.filterMap_eq_nil_iff
    rw [← hpending, Option.isSome_iff_ne_none, Ne, htold, ← hfirst]
    constructor
    · intro h
      obtain ⟨n, hn, hbegun⟩ := not_forall₂.1 h
      obtain ⟨step, hstep⟩ := Option.ne_none_iff_exists'.1 hbegun
      obtain ⟨hevent, hstep⟩ := Event.begun?_eq_some_iff.1 (Note.begun?_eq_some_iff.1 hstep).2
      exact ⟨step, hstep, List.mem_map.2 ⟨n, hn, hevent⟩⟩
    · rintro ⟨step, hstep, hmem⟩ h
      obtain ⟨n, hn, hevent⟩ := List.mem_map.1 hmem
      have hbegun := Note.begun?_eq_some_iff.2 ⟨hkept n hn, Event.begun?_eq_some_iff.2 ⟨hevent, hstep⟩⟩
      cases (h n hn).symm.trans hbegun
  · have hnone : p.later = none := Course.later_eq_none (hpending.trans hready)
    refine ⟨p, hp, hnone, hfirst, fun n hn step hevent hstep => ?_⟩
    cases hlet : n.letGoBy with
    | some d => exact ⟨d, rfl, hevent ▸ (htraced n (List.mem_append_left _ hn)).2 d hlet⟩
    | none =>
      have hbegun := Note.begun?_eq_some_iff.2 ⟨hlet, Event.begun?_eq_some_iff.2 ⟨hevent, hstep⟩⟩
      cases (List.filterMap_eq_nil_iff.1 (htelling.1 hnone) n hn).symm.trans hbegun
  · exact Outcome.parse_of_pending hp
  · exact Outcome.parse_of_ready hverdict

/-- The test whether a text is empty, which is found out late. -/
def emptiness : Refinement Value := ⟨fun v => v.string? == some "", "must be empty", ⟨none, .deferred 1⟩⟩

/-- An empty text, or any text. -/
def emptyOrAny : Schema := .union [.refine (.string .empty) emptiness, .string .empty]

theorem ne_custom_emptyOrAny {t : Schema} (h : empty.Reaches emptyOrAny t) (check : Check) : t ≠ .custom check := by
  cases h with
  | here => nofun
  | child hc h =>
    rcases List.mem_pair.1 hc with rfl | rfl
    · cases h with
      | here => nofun
      | child hc h =>
        obtain rfl := List.mem_singleton.1 hc
        cases h with
        | here => nofun
        | child hc _ => cases hc
    · cases h with
      | here => nofun
      | child hc _ => cases hc

/-- The test is begun for the first candidate; the second accepts at once, and the union lets go of the test. -/
theorem emptiness_is_let_go :
    (∀ t, empty.Reaches emptyOrAny t → t.Prompt) ∧
      ((empty.check emptyOrAny (.string "a") .root).start .fresh).result.isPending = false ∧
      ∃ p n d, empty.Takes ⟨emptyOrAny, .string "a", .root⟩ p ∧ p.first = [n] ∧ n.event = .invoked emptiness.step ∧
        n.letGoBy = some d ∧ empty.LetsGo emptyOrAny d (.invoked emptiness.step) := by
  have prompt : ∀ t, empty.Reaches emptyOrAny t → t.Prompt := fun t ht =>
    Schema.prompt_of_ne_custom (ne_custom_emptyOrAny ht)
  have hready : ((empty.check emptyOrAny (.string "a") .root).start .fresh).result.isPending = false := by
    decide +kernel
  refine ⟨prompt, hready, ?_⟩
  obtain ⟨p, hp, -, hfirst, hletGo⟩ := (pending_iff_begun prompt (.string "a") .root .fresh).2.2.1 hready
  have hlog : ((empty.check emptyOrAny (.string "a") .root).start .fresh).log = [.invoked emptiness.step] := by rfl
  rw [hlog] at hfirst
  obtain ⟨n, hn, hevent⟩ := List.map_eq_singleton_iff.1 hfirst
  obtain ⟨d, hd, hunion⟩ := hletGo n (hn ▸ List.mem_singleton.2 rfl) emptiness.step hevent rfl
  exact ⟨p, n, d, hp, hn, hevent, hd, hunion⟩

end Registries
end Schemata
