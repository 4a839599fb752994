import Schemata.Proofs.Reach
/-!
# Timing — when steps answer makes no difference

`Schema.untimed` is the schema with every step answering in its call.  Schemas that are the same untimed differ only in
which steps are deferred and in how long they take.  Where nothing but the verdicts of its parts decides about a whole,
they come to the same end (`Registries.settle_check_of_untimed_eq`): of every outcome in the one there is a partner in
the other, and both end in one answer whatever is polled before what (`Outcome.Agrees`).

A union is left out, since it takes a verdict that is there before one that is not; and so is a counter, whose numbers
follow the order in which it is drawn.
-/
namespace Schemata

variable {α β : Type}

/-! ## Outcomes that end in one answer -/

namespace Outcome

/-- The answer is there at once and is `a`, whatever numbers are drawn. -/
def ReadyWith (a : α) : Outcome α → Prop
  | .ready b => b = a
  | .pending _ => False
  | .record _ rest => rest.ReadyWith a
  | .draw _ rest => ∀ n, (rest n).ReadyWith a

/-- The outcome settles to `a` and to nothing else. -/
def Certain (o : Outcome α) (a : α) : Prop := ∀ b, o.Ends b → b = a

/-- **Two outcomes settle to one and the same answer.** -/
def Agrees (o o' : Outcome α) : Prop := ∃ a, o.Certain a ∧ o'.Certain a

theorem certain_ready (a : α) : (Outcome.ready a).Certain a := fun b h => (ends_ready a b).1 h

theorem ReadyWith.certain {a : α} : ∀ {o : Outcome α}, o.ReadyWith a → o.Certain a
  | .ready b, h => by
    obtain rfl : b = a := h
    exact certain_ready b
  | .record e rest, h => fun b hb => ReadyWith.certain (o := rest) h b ((ends_record e rest b).1 hb)
  | .draw c rest, h => fun b hb => by
    obtain ⟨n, hn⟩ := (ends_draw c rest b).1 hb
    exact ReadyWith.certain (h n) b hn

theorem Certain.bind {o : Outcome α} {a : α} {f : α → Outcome β} {b : β} (ho : o.Certain a) (hf : (f a).Certain b) :
    (o.bind f).Certain b := fun c hc => by
  obtain ⟨a', ha, hc⟩ := (ends_bind o f c).1 hc
  obtain rfl := ho a' ha
  exact hf c hc

theorem Certain.join {os : List (Outcome α)} {as : List α} (h : List.Forall₂ Certain os as) :
    (Outcome.join os).Certain as := fun _ hb =>
  (eq_of_forall₂ (fun _ _ _ b ho hb => (ho b hb).symm) h (ends_join hb)).symm

theorem Certain.settle {o : Outcome α} {a : α} (h : o.Certain a) (counters : Counters) :
    (o.settle counters).result = a := h _ (ends_settle o counters)

namespace Agrees

theorem ready (a : α) : (Outcome.ready a).Agrees (.ready a) := ⟨a, certain_ready a, certain_ready a⟩

theorem bind_of_certain {o o' : Outcome α} {a : α} {f f' : α → Outcome β} (ho : o.Certain a) (ho' : o'.Certain a)
    (hf : (f a).Agrees (f' a)) : (o.bind f).Agrees (o'.bind f') := by
  obtain ⟨b, hb, hb'⟩ := hf
  exact ⟨b, ho.bind hb, ho'.bind hb'⟩

theorem bind {o o' : Outcome α} {f f' : α → Outcome β} (ho : o.Agrees o') (hf : ∀ a, (f a).Agrees (f' a)) :
    (o.bind f).Agrees (o'.bind f') := by
  obtain ⟨a, h, h'⟩ := ho
  exact bind_of_certain h h' (hf a)

theorem map {o o' : Outcome α} (f : α → β) (ho : o.Agrees o') : (o.map f).Agrees (o'.map f) :=
  ho.bind fun a => ready (f a)

theorem mapSuccess {o o' : Outcome (Verdict α)} (f : α → β) (ho : o.Agrees o') :
    (o.mapSuccess f).Agrees (o'.mapSuccess f) := ho.map _

theorem andThen {o o' : Outcome (Verdict α)} {f f' : α → Outcome (Verdict β)} (ho : o.Agrees o')
    (hf : ∀ a, (f a).Agrees (f' a)) : (o.andThen f).Agrees (o'.andThen f') := by
  refine ho.bind fun verdict => ?_
  cases verdict with
  | ok a => exact hf a
  | error r => exact ready _

/-- **Outcomes that agree one by one agree when they are joined.** -/
theorem join {os os' : List (Outcome α)} (h : List.Forall₂ Agrees os os') :
    (Outcome.join os).Agrees (Outcome.join os') := by
  have key : ∃ as, List.Forall₂ Certain os as ∧ List.Forall₂ Certain os' as := by
    induction h with
    | nil => exact ⟨[], .nil, .nil⟩
    | cons ho _ ih =>
      obtain ⟨a, ha, ha'⟩ := ho
      obtain ⟨as, hs, hs'⟩ := ih
      exact ⟨a :: as, .cons ha hs, .cons ha' hs'⟩
  obtain ⟨as, hs, hs'⟩ := key
  exact ⟨as, .join hs, .join hs'⟩

theorem settle {o o' : Outcome α} (h : o.Agrees o') (counters counters' : Counters) :
    (o.settle counters).result = (o'.settle counters').result := by
  obtain ⟨a, ha, ha'⟩ := h
  rw [ha.settle, ha'.settle]

end Agrees
end Outcome

theorem Step.certain_call (s : Step) (a : α) : (s.call a).Certain a := fun b h => (Step.ends_call s a b).1 h

theorem Step.agrees_call (s s' : Step) (a : α) : (s.call a).Agrees (s'.call a) :=
  ⟨a, s.certain_call a, s'.certain_call a⟩

/-! ## Schemas without their timing -/

def Supplier.untimed (s : Supplier) : Supplier := { s with step := .plain }

def Refinement.untimed (r : Refinement α) : Refinement α := { r with step := .plain }

def Mapping.untimed (m : Mapping α β) : Mapping α β := { m with step := .plain }

namespace Schema

mutual

/-- **The schema with every step answering in its call.** -/
def untimed : Schema → Schema
  | .array rules item => .array rules item.untimed
  | .object ⟨fields, unknownKeys, typeMessage⟩ => .object ⟨untimedFields fields, unknownKeys, typeMessage⟩
  | .union candidates => .union (untimedAll candidates)
  | .optional inner => .optional inner.untimed
  | .nullable inner => .nullable inner.untimed
  | .nullish inner => .nullish inner.untimed
  | .default inner supplier => .default inner.untimed supplier.untimed
  | .refine inner refinement => .refine inner.untimed refinement.untimed
  | .transform inner mapping => .transform inner.untimed mapping.untimed
  | s => s

def untimedAll : List Schema → List Schema
  | [] => []
  | s :: rest => s.untimed :: untimedAll rest

def untimedFields : List (String × Schema) → List (String × Schema)
  | [] => []
  | (name, s) :: rest => (name, s.untimed) :: untimedFields rest

end

theorem untimedAll_eq_map : ∀ l : List Schema, untimedAll l = l.map untimed
  | [] => rfl
  | s :: rest => by rw [untimedAll, untimedAll_eq_map rest, List.map_cons]

theorem untimedFields_eq_mapValues : ∀ l : List (String × Schema), untimedFields l = Entries.mapValues untimed l
  | [] => rfl
  | (name, s) :: rest => by
    rw [untimedFields, untimedFields_eq_mapValues rest]
    rfl

theorem untimed_object (shape : Shape Schema) : (Schema.object shape).untimed = .object (shape.map untimed) := by
  obtain ⟨fields, unknownKeys, typeMessage⟩ := shape
  rw [untimed, untimedFields_eq_mapValues]
  rfl

theorem children_untimed (s : Schema) : s.untimed.children = s.children.map untimed := by
  cases s with
  | object shape => simp [untimed_object, children, Shape.map, Entries.mapValues]
  | union candidates => simp [untimed, children, untimedAll_eq_map]
  | _ => rfl

/-- A node whose verdict can only come from the verdicts of its parts: no union, no counter, and no check of a user's but
one that answers at once and always the same. -/
def Steady : Schema → Prop
  | .union _ => False
  | .default _ supplier => ∃ answer, supplier.source = .given answer
  | .custom check => ∀ v path, ∃ verdict, (check v path).ReadyWith verdict
  | _ => True

theorem steady_untimed_iff (s : Schema) : s.untimed.Steady ↔ s.Steady := by
  cases s with
  | object shape => simp [untimed_object, Steady]
  | _ => exact Iff.rfl

end Schema

theorem Entries.get?_mapValues {σ τ : Type} (f : σ → τ) : ∀ (es : Entries σ) (key : String),
    (Entries.mapValues f es).get? key = (es.get? key).map f
  | [], _ => rfl
  | (k, a) :: rest, key => by
    have ih := get?_mapValues f rest key
    by_cases h : k = key
    · simp [mapValues, get?, h]
    · simpa [mapValues, get?, h] using ih

namespace Registries

def untimed (rs : Registries) : Registries := { rs with stores := rs.stores.map (Entries.mapValues Schema.untimed) }

theorem contents_untimed (rs : Registries) (store : Nat) :
    rs.untimed.contents store = Entries.mapValues Schema.untimed (rs.contents store) := by
  unfold contents untimed
  rw [List.getElem?_map]
  cases rs.stores[store]? <;> rfl

theorem resolve_untimed (rs : Registries) (r : Reference) :
    rs.untimed.resolve r = (rs.resolve r).map Schema.untimed := by
  unfold resolve
  rw [contents_untimed, Entries.get?_mapValues]
  have halive : rs.untimed.alive r.store = rs.alive r.store := rfl
  rw [halive]
  cases rs.alive r.store with
  | false => rfl
  | true => cases (rs.contents r.store).get? r.name <;> rfl

theorem exists_of_reaches_untimed {rs : Registries} {u t' : Schema} (h : rs.untimed.Reaches u t') :
    ∀ s : Schema, s.untimed = u → ∃ t, rs.Reaches s t ∧ t.untimed = t' := by
  induction h with
  | here u => exact fun s hs => ⟨s, .here s, hs⟩
  | child hc _ ih =>
    rintro s rfl
    rw [Schema.children_untimed] at hc
    obtain ⟨c, hmem, rfl⟩ := List.mem_map.1 hc
    obtain ⟨t, ht, rfl⟩ := ih c rfl
    exact ⟨t, .child hmem ht, rfl⟩
  | @reference r u _ hr _ ih =>
    intro s hs
    obtain rfl : s = .reference r := by
      cases s with
      | object shape => rw [Schema.untimed_object] at hs; cases hs
      | reference q => exact hs
      | _ => simp [Schema.untimed] at hs
    rw [resolve_untimed] at hr
    cases hres : rs.resolve r with
    | error fault => rw [hres] at hr; cases hr
    | ok c =>
      rw [hres] at hr
      obtain ⟨t, ht, rfl⟩ := ih c (Except.ok.inj hr)
      exact ⟨t, .reference hres ht, rfl⟩

theorem reaches_untimed {rs : Registries} {s t : Schema} (h : rs.Reaches s t) :
    rs.untimed.Reaches s.untimed t.untimed := by
  induction h with
  | here s => exact .here _
  | child hc _ ih => exact .child (by rw [Schema.children_untimed]; exact List.mem_map_of_mem hc) ih
  | @reference r c _ hr _ ih =>
    have hr' : rs.untimed.resolve r = .ok c.untimed := by rw [resolve_untimed, hr]; rfl
    exact .reference hr' ih

theorem steady_of_untimed_eq {rs rs' : Registries} {s s' : Schema} (hrs : rs.untimed = rs'.untimed)
    (hs : s.untimed = s'.untimed) (steady : ∀ t, rs.Reaches s t → t.Steady) : ∀ t, rs'.Reaches s' t → t.Steady := by
  intro t' ht'
  have hreach : rs.untimed.Reaches s.untimed t'.untimed := by
    rw [hrs, hs]
    exact reaches_untimed ht'
  obtain ⟨t, ht, hu⟩ := exists_of_reaches_untimed hreach s rfl
  rw [← Schema.steady_untimed_iff, ← hu, Schema.steady_untimed_iff]
  exact steady t ht

/-! ## Validation without its timing -/

theorem ready_agrees_of_leaf {o : Outcome (Verdict Value)} (h : ∃ verdict, o = .ready verdict) : o.Agrees o := by
  obtain ⟨verdict, rfl⟩ := h
  exact .ready verdict

/-- **A call that asks for agreeing outcomes agrees with the untimed one.** -/
theorem answer_agrees {rs : Registries} {f g : Schema → Check} {c : Call} (steady : c.schema.Steady)
    (h : ∀ d, rs.Calls c d → (f d.schema d.value d.path).Agrees (g d.schema.untimed d.value d.path)) :
    (rs.answer f c.schema c.value c.path).Agrees (rs.untimed.answer g c.schema.untimed c.value c.path) := by
  obtain ⟨s, v, path⟩ := c
  have inner : ∀ {t : Schema} {w : Value} {q : Path}, rs.Calls ⟨s, v, path⟩ ⟨t, w, q⟩ →
      (f t w q).Agrees (g t.untimed w q) := fun hc => h _ hc
  cases s with
  | string rules => exact ready_agrees_of_leaf (by cases v <;> exact ⟨_, rfl⟩)
  | number rules =>
    refine ready_agrees_of_leaf ?_
    cases v with
    | number x =>
      simp only [answer, Validator.check, Validator.number]
      split <;> exact ⟨_, rfl⟩
    | _ => exact ⟨_, rfl⟩
  | boolean typeMessage => exact ready_agrees_of_leaf (by cases v <;> exact ⟨_, rfl⟩)
  | enumeration options message =>
    refine ready_agrees_of_leaf ?_
    cases v with
    | string x =>
      simp only [answer, Validator.check, Validator.enumeration]
      split <;> exact ⟨_, rfl⟩
    | _ => exact ⟨_, rfl⟩
  | array rules item =>
    cases v with
    | array items =>
      have hitems : List.Forall₂ Outcome.Agrees (items.mapIdx fun i w => f item w (path.index i))
          (items.mapIdx fun i w => g item.untimed w (path.index i)) := by
        refine forall₂_mapIdx_left_iff.2 ⟨List.length_mapIdx.symm, fun i hi _ => ?_⟩
        rw [List.getElem_mapIdx]
        exact inner (.item (List.getElem?_eq_getElem _))
      exact ((Outcome.Agrees.join hitems).map _).mapSuccess _
    | _ => exact .ready _
  | object shape =>
    rw [Schema.untimed_object]
    cases v with
    | object entries =>
      have hfields : List.Forall₂ Outcome.Agrees ((shape.map f).fieldOutcomes path entries)
          (((shape.map Schema.untimed).map g).fieldOutcomes path entries) := by
        rw [Shape.fieldOutcomes_map, Shape.fieldOutcomes_map]
        simp only [Shape.map, Entries.mapValues, List.map_map, List.forall₂_map_left_iff, List.forall₂_map_right_iff,
          Function.comp_def]
        exact List.forall₂_same.2 fun e he => inner (.field he)
      have hassemble : (shape.map f).assemble = ((shape.map Schema.untimed).map g).assemble :=
        Shape.assemble_congr (by simp) rfl
      simp only [answer, Validator.check, Validator.object, hassemble]
      exact ((Outcome.Agrees.join hfields).map _).mapSuccess _
    | _ => exact .ready _
  | union candidates => exact steady.elim
  | optional t =>
    simp only [answer, Schema.untimed, Validator.check, Validator.optional, Validator.ofCheck]
    cases hv : v.isUndefined with
    | true => exact (Outcome.Agrees.ready _).mapSuccess _
    | false => exact ((inner (.optional hv)).mapSuccess _).mapSuccess _
  | nullable t =>
    simp only [answer, Schema.untimed, Validator.check, Validator.nullable, Validator.ofCheck]
    cases hv : v.isNull with
    | true => exact (Outcome.Agrees.ready _).mapSuccess _
    | false => exact ((inner (.nullable hv)).mapSuccess _).mapSuccess _
  | nullish t =>
    cases v with
    | undefined => exact .ready _
    | null => exact .ready _
    | _ => exact ((inner (.nullish rfl rfl)).mapSuccess _).mapSuccess _
  | default t supplier =>
    obtain ⟨given, hgiven⟩ := steady
    simp only [answer, Schema.untimed, Validator.check, Validator.default, Validator.ofCheck]
    cases hv : v.isUndefined with
    | true =>
      obtain rfl := Value.eq_undefined hv
      refine Outcome.Agrees.mapSuccess _ ?_
      simp only [Supplier.call, Supplier.untimed, hgiven]
      refine Outcome.Agrees.bind_of_certain (Step.certain_call _ given) (Step.certain_call _ given) ?_
      cases hanswer : given with
      | ok w => exact inner (.supplied (by rw [Supplier.Gives, hgiven, hanswer]))
      | error reason => exact .ready _
    | false => exact (inner (.default hv)).mapSuccess _
  | refine t refinement =>
    refine Outcome.Agrees.mapSuccess _ ((inner .refine).andThen fun a => ?_)
    exact (Step.agrees_call _ _ _).map _
  | transform t mapping =>
    refine Outcome.Agrees.mapSuccess _ ((inner .transform).andThen fun a => ?_)
    exact (Step.agrees_call _ _ _).map _
  | reference r =>
    simp only [answer, Schema.untimed, resolve_untimed]
    split
    · exact .ready _
    · rename_i hlt
      cases hr : rs.resolve r with
      | ok t => exact inner (.reference (Nat.lt_of_not_le hlt) hr)
      | error fault => exact .ready _
  | custom check =>
    obtain ⟨verdict, hready⟩ := steady v path
    exact ⟨verdict, hready.certain, hready.certain⟩

/-- **Where all that is reached is steady, validation agrees with the untimed one.** -/
theorem check_agrees_untimed (rs : Registries) (c : Call) : (∀ t, rs.Reaches c.schema t → t.Steady) →
    (rs.check c.schema c.value c.path).Agrees (rs.untimed.check c.schema.untimed c.value c.path) := by
  induction c using rs.call_induction with
  | step c ih =>
    intro steady
    rw [check_eq_answer, check_eq_answer rs.untimed]
    exact answer_agrees (steady _ (.here _)) fun d hd => ih d hd fun t ht => steady t (reaches_of_calls hd ht)

/-- **Deferring steps changes no verdict.**  Two schemas, each with the registries that its references are resolved in,
that are the same but for the timing of their steps settle to the same verdict on every value at every place: the same
output, or the same issues in the same order. -/
theorem settle_check_of_untimed_eq {rs rs' : Registries} {s s' : Schema} (hrs : rs.untimed = rs'.untimed)
    (hs : s.untimed = s'.untimed) (steady : ∀ t, rs.Reaches s t → t.Steady) (v : Value) (path : Path)
    (counters counters' : Counters) :
    ((rs.check s v path).settle counters).result = ((rs'.check s' v path).settle counters').result := by
  have h := check_agrees_untimed rs ⟨s, v, path⟩ steady
  have h' := check_agrees_untimed rs' ⟨s', v, path⟩ (steady_of_untimed_eq hrs hs steady)
  have hmid : rs.untimed.check s.untimed v path = rs'.untimed.check s'.untimed v path := by rw [hrs, hs]
  calc ((rs.check s v path).settle counters).result
    _ = ((rs.untimed.check s.untimed v path).settle counters).result := h.settle counters counters
    _ = ((rs'.untimed.check s'.untimed v path).settle counters).result := by rw [hmid]
    _ = ((rs'.check s' v path).settle counters').result := (h'.settle counters' counters).symm

/-- Booleans that must be true, under a name, with a test that answers when `timing` says. -/
def truth (timing : Timing) : Registries :=
  ⟨[[("truth", .refine (.boolean none) ⟨fun v => v.bool? == some true, "must be true", ⟨none, timing⟩⟩)]],
    [("r", ⟨0, 100⟩)]⟩

/-- Arrays of those booleans; for an undefined item `true` is supplied, when `timing` says. -/
def truths (timing : Timing) : Schema :=
  .array .empty (.default (.reference ⟨0, "truth", 100⟩) ⟨.given (.ok (.bool true)), ⟨none, timing⟩⟩)

theorem steady_truths (timing : Timing) {t : Schema} (h : (truth timing).Reaches (truths timing) t) : t.Steady := by
  cases h with
  | here => trivial
  | child hc h =>
    obtain rfl := List.mem_singleton.1 hc
    cases h with
    | here => exact ⟨_, rfl⟩
    | child hc h =>
      obtain rfl := List.mem_singleton.1 hc
      cases h with
      | here => trivial
      | child hc _ => cases hc
      | reference hr h =>
        obtain rfl := Except.ok.inj hr
        cases h with
        | here => trivial
        | child hc h =>
          obtain rfl := List.mem_singleton.1 hc
          cases h with
          | here => trivial
          | child hc _ => cases hc

/-- Where every step is late, and later for each item than for the next, the report is that of steps that answer at
once. -/
theorem settle_check_late_truths :
    let late : Timing := .varying 0 fun n => 10 - n
    let items : Value := .array [.undefined, .bool false]
    (truth .immediate).untimed = (truth late).untimed ∧ (truths .immediate).untimed = (truths late).untimed ∧
      (∀ t, (truth .immediate).Reaches (truths .immediate) t → t.Steady) ∧
      Verdict.issues (((truth late).check (truths late) items .root).settle .fresh).result =
        [⟨(Path.root.index 1).followed, .custom, "must be true"⟩] := by
  intro late items
  have hrs : (truth .immediate).untimed = (truth late).untimed := rfl
  have hs : (truths .immediate).untimed = (truths late).untimed := rfl
  have steady : ∀ t, (truth .immediate).Reaches (truths .immediate) t → t.Steady := fun _ h => steady_truths _ h
  refine ⟨hrs, hs, steady, ?_⟩
  rw [← settle_check_of_untimed_eq hrs hs steady items .root .fresh .fresh]
  decide +kernel

end Registries
end Schemata
