import Schemata.Proofs.Plans
import Schemata.Proofs.Settlement
/-!
# Pipelines — steps behind one another

Refinements and mappings can be applied to a validator one after the other, in any number and any mixture, each at once
or deferred.  What such a pipeline does is read off the output of the validator at its front (`Pipeline.answer`,
`Pipeline.reached`): each step takes what the one before it handed on, and the first that refuses is the last that is
called.  The step lemmas are about a single call with something behind it (`Step.settle_call_bind`,
`Step.start_call_bind`), and a pipeline is such a call with the rest of the pipeline behind it.
-/
namespace Schemata

variable {α β γ : Type}

/-- A step on outputs of type `α` that hands on outputs of type `γ`: a refinement, which may have no words of its own,
or a mapping. -/
inductive Effect : Type → Type → Type 1 where
  | refine {α : Type} (test : α → Bool) (message : Option String) (step : Step) : Effect α α
  | transform {α γ : Type} (mapping : Mapping α γ) (toValue : γ → Value) : Effect α γ

namespace Effect

/-- The validator with one more step. -/
def on : Effect α γ → Validator α → Validator γ
  | .refine test message step, s => s.refine ⟨test, message.getD refinementText, step⟩
  | .transform mapping toValue, s => s.transform mapping toValue

def step : Effect α γ → Step
  | .refine _ _ step => step
  | .transform mapping _ => mapping.step

/-- What is handed on, or the words of the refusal; a refinement hands on what it was given. -/
def judge : Effect α γ → α → Except String γ
  | .refine test message _, a => if test a then .ok a else .error (message.getD "Invalid value")
  | .transform mapping _, a => mapping.apply a

end Effect

/-- Steps one after the other, from outputs of type `α` to outputs of type `β`. -/
inductive Pipeline : Type → Type → Type 1 where
  | done {α : Type} : Pipeline α α
  | next {α β γ : Type} (effect : Effect α γ) (rest : Pipeline γ β) : Pipeline α β

namespace Pipeline

/-- The validator with all steps applied to it, the first one first. -/
def after : {α β : Type} → Pipeline α β → Validator α → Validator β
  | _, _, .done, s => s
  | _, _, .next effect rest, s => rest.after (effect.on s)

/-- What comes out of the steps, each on what the one before it handed on; or the words of the first that refuses. -/
def answer : {α β : Type} → Pipeline α β → α → Except String β
  | _, _, .done, a => .ok a
  | _, _, .next effect rest, a =>
    match effect.judge a with
    | .ok c => rest.answer c
    | .error words => .error words

/-- The steps that are called: all up to the first that refuses, and this one. -/
def reached : {α β : Type} → Pipeline α β → α → List Step
  | _, _, .done, _ => []
  | _, _, .next effect rest, a =>
    effect.step ::
      match effect.judge a with
      | .ok c => rest.reached c
      | .error _ => []

end Pipeline

/-- The verdict that an answer means at a place. -/
def Verdict.ofAnswer (path : Path) : Except String α → Verdict α
  | .ok a => .ok a
  | .error words => .error (.custom path words)

/-- What the steps do with an output. -/
def Pipeline.outcome (path : Path) : {α β : Type} → Pipeline α β → α → Outcome (Verdict β)
  | _, _, .done, a => .success a
  | _, _, .next effect rest, a =>
    (effect.step.call (Verdict.ofAnswer path (effect.judge a))).andThen (rest.outcome path)

/-! ## A single step -/

namespace Step

/-- The events of a step that is called and awaited. -/
def events (s : Step) : List Event := if s.late then [.invoked s, .settled s] else [.invoked s]

/-- The counters after a call, which is counted where that decides about the polls. -/
def counted (s : Step) (counters : Counters) : Counters :=
  match s.timing with
  | .varying counter _ => counters.advance counter
  | _ => counters

/-- The steps up to the first late one, and this one. -/
def untilLate : List Step → List Step
  | [] => []
  | s :: rest => s :: if s.late then [] else untilLate rest

end Step

theorem Deferred.await_after (w : Deferred α) (counters : Counters) : ∀ polls : Nat,
    (Deferred.after polls w).await counters = w.await counters
  | 0 => rfl
  | polls + 1 => await_after w counters polls

/-- **Awaited, a step is called, settles if it is late, and what follows has its answer.** -/
theorem Step.settle_call_bind (s : Step) (a : α) (f : α → Outcome β) (counters : Counters) :
    ((s.call a).bind f).settle counters = ((f a).settle (s.counted counters)).afterAll s.events := by
  rw [Step.call_bind]
  unfold Outcome.settle counted events late
  cases s.timing with
  | immediate => rfl
  | deferred polls => simp [Outcome.toDeferred, Deferred.await, Deferred.await_after, Run.after, Run.afterAll]
  | varying counter polls => simp [Outcome.toDeferred, Deferred.await, Deferred.await_after, Run.after, Run.afterAll]

/-- **Started, a late step is called and all else waits for it**; after any other one what follows goes on at once. -/
theorem Step.start_call_bind (s : Step) (a : α) (f : α → Outcome β) (counters : Counters) :
    (((s.call a).bind f).start counters).log = .invoked s :: (if s.late then [] else ((f a).start counters).log) ∧
      (((s.call a).bind f).start counters).result.isPending =
        (s.late || ((f a).start counters).result.isPending) := by
  rw [Step.call_bind]
  unfold late
  cases s.timing with
  | immediate => simp [Outcome.start, Run.after]
  | deferred polls => simp [Outcome.start, Run.after, Launch.isPending]
  | varying counter polls => simp [Outcome.start, Run.after, Launch.isPending]

/-- **A validator with one more step** goes on from its output with a call of the step. -/
theorem Effect.run_on (e : Effect α γ) (s : Validator α) (v : Value) (path : Path) :
    (e.on s).run v path = (s.run v path).andThen fun a => e.step.call (Verdict.ofAnswer path (e.judge a)) := by
  cases e with
  | refine test message step =>
    simp only [on, Validator.refine, Effect.step, judge, Step.call_map]
    congr 1
    funext a
    cases test a <;> rfl
  | transform mapping toValue =>
    simp only [on, Validator.transform, Effect.step, judge, Step.call_map]
    rfl

/-! ## Chains of outcomes -/

namespace Outcome

theorem settle_bind (f : α → Outcome β) (o : Outcome α) (counters : Counters) :
    (o.bind f).settle counters =
      ((f (o.settle counters).result).settle (o.settle counters).counters).afterAll (o.settle counters).log := by
  unfold settle
  rw [toDeferred_bind, Deferred.await_bind]

theorem start_bind_of_pending (f : α → Outcome β) : ∀ (o : Outcome α) {counters : Counters} {w : Deferred α},
    (o.start counters).result = .pending w →
      (o.bind f).start counters = ⟨.pending (w.bind fun a => (f a).toDeferred), (o.start counters).log,
        (o.start counters).counters⟩
  | .pending _, _, _, h => by
    obtain rfl := Launch.pending.inj h
    rfl
  | .record e rest, counters, _, h => by
    rw [bind_record, start, start_bind_of_pending f rest h]
    rfl
  | .draw c rest, counters, _, h => start_bind_of_pending f (rest (counters c)) h

theorem settle_andThen_of_ok (f : α → Outcome (Verdict β)) {o : Outcome (Verdict α)} {counters : Counters} {a : α}
    (h : (o.settle counters).result = .ok a) :
    (o.andThen f).settle counters = ((f a).settle (o.settle counters).counters).afterAll (o.settle counters).log := by
  rw [andThen, settle_bind, h]

theorem settle_andThen_of_error (f : α → Outcome (Verdict β)) {o : Outcome (Verdict α)} {counters : Counters}
    {report : Report} (h : (o.settle counters).result = .error report) :
    (o.andThen f).settle counters = ⟨.error report, (o.settle counters).log, (o.settle counters).counters⟩ := by
  rw [andThen, settle_bind, h]
  exact congrArg (Run.mk _ · _) (List.append_nil _)

theorem start_andThen_of_ok (f : α → Outcome (Verdict β)) {o : Outcome (Verdict α)} {counters : Counters} {a : α}
    (h : (o.start counters).result = .ready (.ok a)) :
    (o.andThen f).start counters = ((f a).start (o.start counters).counters).afterAll (o.start counters).log := by
  rw [andThen, start_bind_of_ready _ _ h]

theorem start_andThen_of_error (f : α → Outcome (Verdict β)) {o : Outcome (Verdict α)} {counters : Counters}
    {report : Report} (h : (o.start counters).result = .ready (.error report)) :
    (o.andThen f).start counters = ⟨.ready (.error report), (o.start counters).log, (o.start counters).counters⟩ := by
  rw [andThen, start_bind_of_ready _ _ h]
  exact congrArg (Run.mk _ · _) (List.append_nil _)

theorem andThen_assoc (f : α → Outcome (Verdict β)) (g : β → Outcome (Verdict γ)) (o : Outcome (Verdict α)) :
    (o.andThen f).andThen g = o.andThen fun a => (f a).andThen g := by
  unfold andThen
  rw [bind_assoc]
  congr
  funext verdict
  cases verdict <;> rfl

theorem andThen_success (o : Outcome (Verdict α)) : o.andThen success = o := by
  refine Eq.trans ?_ (bind_pure o)
  unfold andThen
  congr
  funext verdict
  cases verdict <;> rfl

end Outcome

/-! ## Any number of steps -/

namespace Pipeline

/-- **The steps go on with what the validator accepts.** -/
theorem run_after (v : Value) (path : Path) : ∀ {α β : Type} (p : Pipeline α β) (s : Validator α),
    (p.after s).run v path = (s.run v path).andThen (p.outcome path)
  | _, _, .done, s => (Outcome.andThen_success _).symm
  | _, _, .next effect rest, s => by
    rw [after, run_after v path rest, effect.run_on, Outcome.andThen_assoc]
    rfl

/-- **Awaited, the steps come to their answer**, and those that are reached are called and settle in order. -/
theorem settle_outcome (path : Path) : ∀ {α β : Type} (p : Pipeline α β) (a : α) (counters : Counters),
    ((p.outcome path a).settle counters).result = Verdict.ofAnswer path (p.answer a) ∧
      ((p.outcome path a).settle counters).log = (p.reached a).flatMap Step.events
  | _, _, .done, a, counters => ⟨rfl, rfl⟩
  | _, _, .next effect rest, a, counters => by
    rw [outcome, Outcome.andThen, Step.settle_call_bind]
    simp only [answer, reached, List.flatMap_cons]
    cases effect.judge a with
    | ok c =>
      obtain ⟨hresult, hlog⟩ := settle_outcome path rest c (effect.step.counted counters)
      exact ⟨hresult, congrArg (effect.step.events ++ ·) hlog⟩
    | error words => exact ⟨rfl, rfl⟩

/-- **Started, the steps are called up to the first late one**, which is what all else waits for. -/
theorem start_outcome (path : Path) : ∀ {α β : Type} (p : Pipeline α β) (a : α) (counters : Counters),
    ((p.outcome path a).start counters).log = (Step.untilLate (p.reached a)).map .invoked ∧
      ((p.outcome path a).start counters).result.isPending = (p.reached a).any Step.late
  | _, _, .done, a, counters => ⟨rfl, rfl⟩
  | _, _, .next effect rest, a, counters => by
    rw [outcome, Outcome.andThen, (Step.start_call_bind _ _ _ _).1, (Step.start_call_bind _ _ _ _).2]
    simp only [reached, Step.untilLate, List.map_cons, List.any_cons]
    cases effect.judge a with
    | ok c =>
      obtain ⟨hlog, hpending⟩ := start_outcome path rest c counters
      simp only [Verdict.ofAnswer, hlog, hpending]
      cases effect.step.late <;> simp
    | error words => cases effect.step.late <;> simp [Verdict.ofAnswer, Step.untilLate, Outcome.failure, Outcome.start,
        Launch.isPending]

/-- **What a pipeline of steps comes to.**  Steps of any kind are applied to any validator: refinements with and without
words, mappings that may refuse and others, each answering in its call or late.  If the validator refuses, its report is
the report and no step is called.  If it accepts, the steps are called in order, each once and on what the one before it
handed on, up to the first that refuses; its words are the one issue, at the place of the value, and no step after it is
called.  If none refuses, what the last one hands on is the output.  What is done before the whole returns is what the
validator does before it returns and, if its output is there, the calls up to the first late step; and the whole is
pending exactly when the validator is or a late step is reached. -/
theorem pipeline_exact (p : Pipeline α β) (s : Validator α) (v : Value) (path : Path) (counters : Counters) :
    let asked := (s.run v path).start counters
    let front := (s.run v path).settle counters
    let launched := ((p.after s).run v path).start counters
    let settled := ((p.after s).run v path).settle counters
    (settled.result =
      match front.result with
      | .error report => .error report
      | .ok a =>
        match p.answer a with
        | .ok b => .ok b
        | .error words => .error ⟨[⟨path, .custom, words⟩]⟩) ∧
    (settled.log = front.log ++
      match front.result with
      | .error _ => []
      | .ok a => (p.reached a).flatMap Step.events) ∧
    (launched.log = asked.log ++
      match asked.result with
      | .ready (.ok a) => (Step.untilLate (p.reached a)).map .invoked
      | _ => []) ∧
    (launched.result.isPending = true ↔
      asked.result.isPending = true ∨
        ∃ a, asked.result = .ready (.ok a) ∧ ∃ step ∈ p.reached a, step.late = true) := by
  intro asked front launched settled
  have hrun : (p.after s).run v path = (s.run v path).andThen (p.outcome path) := run_after v path p s
  have hsettled : settled = ((s.run v path).andThen (p.outcome path)).settle counters :=
    congrArg (Outcome.settle · counters) hrun
  have hlaunched : launched = ((s.run v path).andThen (p.outcome path)).start counters :=
    congrArg (Outcome.start · counters) hrun
  refine ⟨?_, ?_, ?_⟩
  · cases hfront : front.result with
    | error report => rw [hsettled, Outcome.settle_andThen_of_error _ hfront]
    | ok a =>
      rw [hsettled, Outcome.settle_andThen_of_ok _ hfront]
      refine (settle_outcome path p a front.counters).1.trans ?_
      dsimp only
      cases p.answer a <;> rfl
  · cases hfront : front.result with
    | error report =>
      rw [hsettled, Outcome.settle_andThen_of_error _ hfront]
      exact (List.append_nil _).symm
    | ok a =>
      rw [hsettled, Outcome.settle_andThen_of_ok _ hfront]
      exact congrArg (front.log ++ ·) (settle_outcome path p a front.counters).2
  · cases hasked : asked.result with
    | pending w =>
      rw [hlaunched, Outcome.andThen, Outcome.start_bind_of_pending _ _ hasked]
      exact ⟨(List.append_nil _).symm, fun _ => .inl rfl, fun _ => rfl⟩
    | ready verdict =>
      cases verdict with
      | error report =>
        rw [hlaunched, Outcome.start_andThen_of_error _ hasked]
        simp [Launch.isPending, asked]
      | ok a =>
        obtain ⟨hlog, hpending⟩ := start_outcome path p a asked.counters
        rw [hlaunched, Outcome.start_andThen_of_ok _ hasked]
        refine ⟨congrArg (asked.log ++ ·) hlog, (Bool.eq_iff_iff.1 hpending).trans ?_⟩
        rw [List.any_eq_true]
        constructor
        · exact fun h => .inr ⟨a, rfl, h⟩
        · rintro (h | ⟨b, hb, h⟩)
          · cases h
          · obtain rfl := Except.ok.inj (Launch.ready.inj hb)
            exact h

end Pipeline
end Schemata
