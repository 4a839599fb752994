import Schemata.Proofs.Reach
/-!
# Plans — what a call does with the calls that it makes

Fifteen kinds of schema come down to six ways to reach a verdict.  A call makes no other call, passes one on, gathers
the verdicts of several, takes the first of several that accepts, asks a supplier first, or applies a step to what
another call accepts.  `Registries.plan` reads the way off a call, and `Registries.validate_eq_plan` says that
validation goes this way; what is true of the six ways is then true of all schemas.
-/
namespace Schemata

/-- A way to reach a verdict, with the calls to make on it. -/
inductive Plan where
  | leaf (outcome : Outcome (Verdict Value))
  | same (call : Call)
  | every (calls : List Call) (decide : List (Verdict Value) → Verdict Value)
  | first (candidates : List Schema) (value : Value) (path : Path)
  | supplied (supplier : Supplier) (path : Path) (call : Value → Call)
  | effect (call : Call) (step : Step) (judge : Value → Verdict Value)

/-- The verdict of a refinement on an output. -/
def Refinement.judge (r : Refinement Value) (path : Path) (v : Value) : Verdict Value :=
  if r.test v then .ok v else .error (.custom path r.message)

/-- The verdict of a mapping on an output. -/
def Mapping.judge (m : Mapping Value Value) (path : Path) (v : Value) : Verdict Value :=
  match m.apply v with
  | .ok w => .ok w
  | .error reason => .error (.custom path reason)

/-- What comes of a supplied value, or of none. -/
def Supplier.continue (path : Path) (ask : Value → Outcome (Verdict Value)) :
    Except String Value → Outcome (Verdict Value)
  | .ok v => ask v
  | .error reason => .failure (.custom path (noDefaultText reason))

namespace Plan

/-- Going a way, where `ask` says what every call on it comes to. -/
def outcome (ask : Call → Outcome (Verdict Value)) : Plan → Outcome (Verdict Value)
  | .leaf o => o
  | .same c => ask c
  | .every calls decide => (Outcome.join (calls.map ask)).map decide
  | .first candidates v path => scanCandidates v path .empty [] (candidates.map fun s v path => ask ⟨s, v, path⟩)
  | .supplied supplier path call => supplier.call.bind (Supplier.continue path fun v => ask (call v))
  | .effect c step judge => (ask c).andThen fun v => step.call (judge v)

/-- A call that may be made on the way. -/
def Makes : Plan → Call → Prop
  | .leaf _, _ => False
  | .same c, d => d = c
  | .every calls _, d => d ∈ calls
  | .first candidates v path, d => ∃ s ∈ candidates, d = ⟨s, v, path⟩
  | .supplied supplier _ call, d => ∃ v, supplier.Gives v ∧ d = call v
  | .effect c _ _, d => d = c

end Plan

/-- The step that a node takes itself, if it has one. -/
def Schema.step? : Schema → Option Step
  | .default _ supplier => some supplier.step
  | .refine _ refinement => some refinement.step
  | .transform _ mapping => some mapping.step
  | _ => none

/-- What the way of a call tells of its schema: verdicts that no call is made for are there at once, but for those of a
user's check; steps are the node's own; candidates are asked about the value and at the place of their union; and what
gathers verdicts keeps all their issues. -/
def Plan.Suits (c : Call) : Plan → Prop
  | .leaf o => (∃ verdict, o = .ready verdict) ∨ ∃ check, c.schema = .custom check ∧ o = check c.value c.path
  | .same _ => True
  | .every _ decide => ∀ verdicts, ∀ x ∈ verdicts, ∀ i ∈ x.issues, i ∈ (decide verdicts).issues
  | .first candidates v path => c.schema = .union candidates ∧ candidates ≠ [] ∧ v = c.value ∧ path = c.path
  | .supplied supplier _ _ => ∃ inner, c.schema = .default inner supplier
  | .effect _ step _ => c.schema.step? = some step

namespace Registries

/-- The call that validates a field of an object. -/
def fieldCall (entries : Entries Value) (path : Path) (f : String × Schema) : Call :=
  ⟨f.2, (Entries.get? entries f.1).getD .undefined, path.field f.1⟩

/-- **The way of a call.** -/
def plan (rs : Registries) : Call → Plan
  | ⟨.string rules, v, path⟩ => .leaf ((Validator.string rules).check v path)
  | ⟨.number rules, v, path⟩ => .leaf ((Validator.number rules).check v path)
  | ⟨.boolean typeMessage, v, path⟩ => .leaf ((Validator.boolean typeMessage).check v path)
  | ⟨.enumeration options message, v, path⟩ => .leaf ((Validator.enumeration options message).check v path)
  | ⟨.array rules item, v, path⟩ =>
    match v with
    | .array items => .every (items.mapIdx fun i w => ⟨item, w, path.index i⟩) fun verdicts =>
        (Verdict.gather (rules.violations path items.length) verdicts).map .array
    | other => .leaf (mismatch path .invalidArray "array" other rules.typeMessage)
  | ⟨.object shape, v, path⟩ =>
    match v with
    | .object entries => .every (shape.fields.map (fieldCall entries path)) fun verdicts =>
        ((shape.map rs.check).assemble path entries verdicts).map .object
    | other => .leaf (mismatch path .invalidObject "object" other shape.typeMessage)
  | ⟨.union candidates, v, path⟩ =>
    if candidates.isEmpty then .leaf (.failure (.custom path emptyUnionText)) else .first candidates v path
  | ⟨.optional inner, v, path⟩ => if v.isUndefined then .leaf (.success .undefined) else .same ⟨inner, v, path⟩
  | ⟨.nullable inner, v, path⟩ => if v.isNull then .leaf (.success .null) else .same ⟨inner, v, path⟩
  | ⟨.nullish inner, v, path⟩ =>
    match v with
    | .undefined => .leaf (.success .undefined)
    | .null => .leaf (.success .null)
    | other => .same ⟨inner, other, path⟩
  | ⟨.default inner supplier, v, path⟩ =>
    if v.isUndefined then .supplied supplier path fun w => ⟨inner, w, path⟩ else .same ⟨inner, v, path⟩
  | ⟨.refine inner r, v, path⟩ => .effect ⟨inner, v, path⟩ r.step (r.judge path)
  | ⟨.transform inner m, v, path⟩ => .effect ⟨inner, v, path⟩ m.step (m.judge path)
  | ⟨.reference r, v, path⟩ =>
    if r.limit ≤ path.references then .leaf (refuse path (.tooDeep r.limit path))
    else
      match rs.resolve r with
      | .ok s => .same ⟨s, v, path.followed⟩
      | .error fault => .leaf (refuse path fault)
  | ⟨.custom check, v, path⟩ => .leaf (check v path)

/-- What a call comes to. -/
def validate (rs : Registries) (c : Call) : Outcome (Verdict Value) := rs.check c.schema c.value c.path

end Registries

/-! ## Verdicts on several -/

theorem Verdict.issues_map {α β : Type} (f : α → β) (x : Verdict α) : (x.map f).issues = x.issues := by
  cases x <;> rfl

theorem Verdict.issues_gather {α : Type} (before : List Issue) (verdicts : List (Verdict α)) :
    (gather before verdicts).issues = before ++ verdicts.flatMap issues := by
  unfold gather allIssues
  cases before ++ verdicts.flatMap issues <;> rfl

theorem Shape.issues_assemble (s : Shape Check) (path : Path) (entries : Entries Value)
    (verdicts : List (Verdict Value)) :
    (s.assemble path entries verdicts).issues = verdicts.flatMap Verdict.issues ++ s.unknownIssues path entries := by
  unfold assemble
  cases verdicts.flatMap Verdict.issues ++ s.unknownIssues path entries <;> rfl

/-! ## Outputs written twice are written once -/

namespace Outcome

variable {α β γ : Type}

theorem mapSuccess_mapSuccess (f : α → β) (g : β → γ) (o : Outcome (Verdict α)) :
    (o.mapSuccess f).mapSuccess g = o.mapSuccess fun a => g (f a) := by
  rw [mapSuccess, mapSuccess, map_map]
  congr 1
  funext verdict
  cases verdict <;> rfl

theorem mapSuccess_id (o : Outcome (Verdict α)) : (o.mapSuccess fun a => a) = o := by
  refine Eq.trans ?_ (map_id o)
  unfold mapSuccess
  congr 1
  funext verdict
  cases verdict <;> rfl

theorem map_mapSuccess (f : α → Verdict β) (g : β → γ) (o : Outcome α) :
    (o.map f).mapSuccess g = o.map fun a => (f a).map g := map_map _ _ o

end Outcome

theorem Step.call_map {α β : Type} (s : Step) (a : α) (f : α → β) : (s.call a).map f = s.call (f a) := by
  rw [Outcome.map, Step.call_bind, Step.call]
  cases s.timing <;> rfl

theorem map_mapIdx {α β γ : Type} (f : Nat → α → β) (g : β → γ) (l : List α) :
    (l.mapIdx f).map g = l.mapIdx fun i a => g (f i a) := by
  refine List.ext_getElem (by simp) fun i _ _ => ?_
  simp only [List.getElem_map, List.getElem_mapIdx]

theorem scanCandidates_map_congr {f g : Schema → Check} {v w : Value} {path q : Path} : ∀ (candidates : List Schema),
    (∀ s ∈ candidates, f s v path = g s w q) → ∀ (refused : Report) (waiting : List (Deferred (Verdict Value))),
      scanCandidates v path refused waiting (candidates.map f) = scanCandidates w q refused waiting (candidates.map g)
  | [], _, _, _ => rfl
  | s :: rest, h, refused, waiting => by
    have ih := scanCandidates_map_congr rest fun t ht => h t (List.mem_cons_of_mem s ht)
    simp only [List.map_cons, scanCandidates, h s List.mem_cons_self, ih]

namespace Validator

variable {α : Type} {c : Check}

theorem check_ofCheck (c : Check) : (ofCheck c).check = c := funext fun _ => funext fun _ => Outcome.mapSuccess_id _

theorem check_optional (s : Validator α) (v : Value) (path : Path) :
    s.optional.check v path = if v.isUndefined then .success .undefined else s.check v path := by
  simp only [check, optional]
  cases v.isUndefined with
  | true => rfl
  | false => exact Outcome.mapSuccess_mapSuccess _ _ _

theorem check_nullable (s : Validator α) (v : Value) (path : Path) :
    s.nullable.check v path = if v.isNull then .success .null else s.check v path := by
  simp only [check, nullable]
  cases v.isNull with
  | true => rfl
  | false => exact Outcome.mapSuccess_mapSuccess _ _ _

theorem check_nullish (s : Validator α) (v : Value) (path : Path) :
    s.nullish.check v path =
      if v.isUndefined then .success .undefined else if v.isNull then .success .null else s.check v path := by
  cases v with
  | undefined => rfl
  | null => rfl
  | _ => exact Outcome.mapSuccess_mapSuccess _ _ _

theorem check_default (s : Validator α) (supplier : Supplier) (v : Value) (path : Path) :
    (s.default supplier).check v path =
      if v.isUndefined then supplier.call.bind (Supplier.continue path fun w => s.check w path) else s.check v path := by
  simp only [check, default]
  cases v.isUndefined with
  | true =>
    refine (Outcome.bind_assoc _ _ _).trans ?_
    congr
    funext answer
    cases answer <;> rfl
  | false => rfl

theorem check_refine_ofCheck (r : Refinement Value) (v : Value) (path : Path) :
    ((ofCheck c).refine r).check v path = (c v path).andThen fun a => r.step.call (r.judge path a) := by
  refine (Outcome.mapSuccess_id _).trans ?_
  simp only [refine, ofCheck, Step.call_map, Refinement.judge]

theorem check_transform_ofCheck (m : Mapping Value Value) (v : Value) (path : Path) :
    ((ofCheck c).transform m id).check v path = (c v path).andThen fun a => m.step.call (m.judge path a) := by
  refine (Outcome.mapSuccess_id _).trans ?_
  simp only [transform, ofCheck, Step.call_map]
  congr 1
  funext a
  rw [Mapping.judge]
  cases m.apply a <;> rfl

end Validator

namespace Registries

variable {rs : Registries}

/-- **A call goes its way.** -/
theorem answer_eq_plan (f : Schema → Check) (c : Call) :
    rs.answer f c.schema c.value c.path = (rs.plan c).outcome fun d => f d.schema d.value d.path := by
  obtain ⟨s, v, path⟩ := c
  cases s with
  | array rules item =>
    cases v with
    | array items =>
      simp only [answer, plan, Plan.outcome, Validator.check, Validator.array, Validator.ofCheck,
        Outcome.map_mapSuccess, map_mapIdx, List.map_id]
    | _ => rfl
  | object shape =>
    cases v with
    | object entries =>
      have hassemble : (shape.map f).assemble = (shape.map rs.check).assemble := Shape.assemble_congr (by simp) rfl
      simp only [answer, plan, Plan.outcome, Validator.check, Validator.object, Outcome.map_mapSuccess, hassemble,
        Shape.fieldOutcomes_map, fieldCall, List.map_map, Function.comp_def]
    | _ => rfl
  | union candidates =>
    simp only [answer, plan, Check.union, List.isEmpty_map]
    cases candidates with
    | nil => rfl
    | cons s rest => exact scanCandidates_map_congr (s :: rest) (fun _ _ => rfl) .empty []
  | optional t =>
    simp only [answer, plan, Validator.check_optional, Validator.check_ofCheck]
    split <;> rfl
  | nullable t =>
    simp only [answer, plan, Validator.check_nullable, Validator.check_ofCheck]
    split <;> rfl
  | nullish t =>
    cases v with
    | undefined => rfl
    | null => rfl
    | _ => exact (Validator.check_nullish _ _ path).trans (by rw [Validator.check_ofCheck]; rfl)
  | default t supplier =>
    simp only [answer, plan, Validator.check_default, Validator.check_ofCheck]
    split <;> rfl
  | refine t r => exact Validator.check_refine_ofCheck r v path
  | transform t m => exact Validator.check_transform_ofCheck m v path
  | reference r =>
    simp only [answer, plan]
    split
    · rfl
    · cases rs.resolve r <;> rfl
  | _ => rfl

/-- **Validation goes the way that is planned for each call.** -/
theorem validate_eq_plan (rs : Registries) (c : Call) : rs.validate c = (rs.plan c).outcome rs.validate := by
  unfold validate
  rw [check_eq_answer]
  exact answer_eq_plan rs.check c

/-- **The way of a call suits its schema.** -/
theorem plan_suits (rs : Registries) (c : Call) : (rs.plan c).Suits c := by
  obtain ⟨s, v, path⟩ := c
  have ready : ∀ verdict : Verdict Value, (Plan.leaf (.ready verdict)).Suits ⟨s, v, path⟩ := fun verdict => .inl ⟨_, rfl⟩
  cases s with
  | string rules => cases v <;> exact ready _
  | number rules =>
    cases v with
    | number x =>
      simp only [plan, Validator.check, Validator.number]
      split <;> exact ready _
    | _ => exact ready _
  | boolean typeMessage => cases v <;> exact ready _
  | enumeration options message =>
    cases v with
    | string x =>
      simp only [plan, Validator.check, Validator.enumeration]
      split <;> exact ready _
    | _ => exact ready _
  | array rules item =>
    cases v with
    | array items =>
      intro verdicts x hx i hi
      rw [Verdict.issues_map, Verdict.issues_gather]
      exact List.mem_append_right _ (List.mem_flatMap.2 ⟨x, hx, hi⟩)
    | _ => exact ready _
  | object shape =>
    cases v with
    | object entries =>
      intro verdicts x hx i hi
      rw [Verdict.issues_map, Shape.issues_assemble]
      exact List.mem_append_left _ (List.mem_flatMap.2 ⟨x, hx, hi⟩)
    | _ => exact ready _
  | union candidates =>
    cases candidates with
    | nil => exact ready _
    | cons s rest => exact ⟨rfl, List.cons_ne_nil _ _, rfl, rfl⟩
  | optional t =>
    simp only [plan]
    split
    · exact ready _
    · trivial
  | nullable t =>
    simp only [plan]
    split
    · exact ready _
    · trivial
  | nullish t =>
    cases v with
    | undefined => exact ready _
    | null => exact ready _
    | _ => trivial
  | default t supplier =>
    simp only [plan]
    split
    · exact ⟨t, rfl⟩
    · trivial
  | refine t r => exact rfl
  | transform t m => exact rfl
  | reference r =>
    simp only [plan]
    split
    · exact ready _
    · cases rs.resolve r with
      | ok t => trivial
      | error fault => exact ready _
  | custom check => exact .inr ⟨check, rfl, rfl⟩

/-- **A plan makes no calls but those of its call.** -/
theorem calls_of_makes {c d : Call} (h : (rs.plan c).Makes d) : rs.Calls c d := by
  obtain ⟨s, v, path⟩ := c
  cases s with
  | array rules item =>
    cases v with
    | array items =>
      obtain ⟨i, hi, rfl⟩ := List.mem_mapIdx.1 h
      exact .item (List.getElem?_eq_getElem hi)
    | _ => exact h.elim
  | object shape =>
    cases v with
    | object entries =>
      obtain ⟨f, hf, rfl⟩ := List.mem_map.1 h
      exact .field hf
    | _ => exact h.elim
  | union candidates =>
    simp only [plan] at h
    split at h
    · exact h.elim
    · obtain ⟨s, hs, rfl⟩ := h
      exact .candidate hs
  | optional t =>
    cases hv : v.isUndefined <;> simp only [plan, hv] at h
    · obtain rfl := h
      exact .optional hv
    · exact h.elim
  | nullable t =>
    cases hv : v.isNull <;> simp only [plan, hv] at h
    · obtain rfl := h
      exact .nullable hv
    · exact h.elim
  | nullish t =>
    cases v with
    | undefined => exact h.elim
    | null => exact h.elim
    | _ =>
      obtain rfl := h
      exact .nullish rfl rfl
  | default t supplier =>
    cases hv : v.isUndefined <;> simp only [plan, hv] at h
    · obtain rfl := h
      exact .default hv
    · obtain rfl := Value.eq_undefined hv
      obtain ⟨w, hw, rfl⟩ := h
      exact .supplied hw
  | refine t r =>
    obtain rfl := h
    exact .refine
  | transform t m =>
    obtain rfl := h
    exact .transform
  | reference r =>
    simp only [plan] at h
    split at h
    · exact h.elim
    · rename_i hlt
      split at h
      · rename_i t ht
        obtain rfl := h
        exact .reference (Nat.lt_of_not_le hlt) ht
      · exact h.elim
  | _ => exact h.elim

end Registries
end Schemata
