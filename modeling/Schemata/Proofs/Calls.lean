import Mathlib.Data.Prod.Lex
import Mathlib.Order.MinMax
import Schemata.Proofs.Traces
import Schemata.Registry
/-!
# Calls — what validation asks on its way

Validating a value against a schema asks the schemas inside it, each at a place of its own, and a reference asks the
schema that its name leads to.  `Registries.Calls` says which calls a call can make; with references a chain of calls
may come back to the same schema with the same value at the same place.

It cannot go on for ever (`Registries.calls_wf`): a call that follows a reference uses up one of the hops that some
limit leaves, and every other call asks a smaller schema.  So validation is what its calls make of each other
(`Registries.check_eq_answer`), and whatever is kept by one call is true of all (`Registries.call_induction`).
-/
namespace Schemata

/-- A schema that is asked about a value at a place. -/
structure Call where
  schema : Schema
  value : Value
  path : Path

/-- A value that a supplier can give. -/
def Supplier.Gives (s : Supplier) (v : Value) : Prop :=
  match s.source with
  | .given answer => answer = .ok v
  | .counted _ start => ∃ n : Nat, v = .ofInt (start + n)

namespace Registries

/-- **The calls that a call can make.**  A candidate of a union counts even where an earlier one decides, and a supplier
even where it gives another value. -/
inductive Calls (rs : Registries) : Call → Call → Prop where
  | item {rules : Rules LengthRule} {item : Schema} {items : List Value} {v : Value} {path : Path} {i : Nat} :
      items[i]? = some v → Calls rs ⟨.array rules item, .array items, path⟩ ⟨item, v, path.index i⟩
  | field {shape : Shape Schema} {f : String × Schema} {entries : Entries Value} {path : Path} : f ∈ shape.fields →
      Calls rs ⟨.object shape, .object entries, path⟩
        ⟨f.2, (Entries.get? entries f.1).getD .undefined, path.field f.1⟩
  | candidate {candidates : List Schema} {s : Schema} {v : Value} {path : Path} : s ∈ candidates →
      Calls rs ⟨.union candidates, v, path⟩ ⟨s, v, path⟩
  | optional {inner : Schema} {v : Value} {path : Path} : v.isUndefined = false →
      Calls rs ⟨.optional inner, v, path⟩ ⟨inner, v, path⟩
  | nullable {inner : Schema} {v : Value} {path : Path} : v.isNull = false →
      Calls rs ⟨.nullable inner, v, path⟩ ⟨inner, v, path⟩
  | nullish {inner : Schema} {v : Value} {path : Path} : v.isUndefined = false → v.isNull = false →
      Calls rs ⟨.nullish inner, v, path⟩ ⟨inner, v, path⟩
  | default {inner : Schema} {supplier : Supplier} {v : Value} {path : Path} : v.isUndefined = false →
      Calls rs ⟨.default inner supplier, v, path⟩ ⟨inner, v, path⟩
  | supplied {inner : Schema} {supplier : Supplier} {v : Value} {path : Path} : supplier.Gives v →
      Calls rs ⟨.default inner supplier, .undefined, path⟩ ⟨inner, v, path⟩
  | refine {inner : Schema} {refinement : Refinement Value} {v : Value} {path : Path} :
      Calls rs ⟨.refine inner refinement, v, path⟩ ⟨inner, v, path⟩
  | transform {inner : Schema} {mapping : Mapping Value Value} {v : Value} {path : Path} :
      Calls rs ⟨.transform inner mapping, v, path⟩ ⟨inner, v, path⟩
  | reference {r : Reference} {s : Schema} {v : Value} {path : Path} : path.references < r.limit →
      rs.resolve r = .ok s → Calls rs ⟨.reference r, v, path⟩ ⟨s, v, path.followed⟩

end Registries

/-- How many references a call of this schema follows itself: one if it is a reference. -/
def Schema.hops : Schema → Nat
  | .reference _ => 1
  | _ => 0

theorem Schema.hops_eq_zero {s : Schema} (hs : ∀ r, s ≠ .reference r) : s.hops = 0 := by
  cases s with
  | reference r => exact absurd rfl (hs r)
  | _ => rfl

/-- The schemas right inside a schema. -/
def Schema.children : Schema → List Schema
  | .array _ item => [item]
  | .object shape => shape.fields.map Prod.snd
  | .union candidates => candidates
  | .optional inner => [inner]
  | .nullable inner => [inner]
  | .nullish inner => [inner]
  | .default inner _ => [inner]
  | .refine inner _ => [inner]
  | .transform inner _ => [inner]
  | _ => []

theorem Schema.sizeOf_lt_of_mem_children {s c : Schema} (h : c ∈ s.children) : sizeOf c < sizeOf s := by
  cases s with
  | object shape =>
    obtain ⟨f, hf, rfl⟩ := List.mem_map.1 h
    have hlt := List.sizeOf_lt_of_mem hf
    obtain ⟨fields, unknownKeys, typeMessage⟩ := shape
    obtain ⟨name, s⟩ := f
    simp only [Schema.object.sizeOf_spec, Shape.mk.sizeOf_spec, Prod.mk.sizeOf_spec] at hlt ⊢
    omega
  | union candidates =>
    have hlt := List.sizeOf_lt_of_mem (show c ∈ candidates from h)
    simp only [Schema.union.sizeOf_spec]
    omega
  | array rules item =>
    obtain rfl := List.mem_singleton.1 h
    simp only [Schema.array.sizeOf_spec]
    omega
  | default inner supplier =>
    obtain rfl := List.mem_singleton.1 h
    simp only [Schema.default.sizeOf_spec]
    omega
  | refine inner refinement =>
    obtain rfl := List.mem_singleton.1 h
    simp only [Schema.refine.sizeOf_spec]
    omega
  | transform inner mapping =>
    obtain rfl := List.mem_singleton.1 h
    simp only [Schema.transform.sizeOf_spec]
    omega
  | optional inner => obtain rfl := List.mem_singleton.1 h; simp
  | nullable inner => obtain rfl := List.mem_singleton.1 h; simp
  | nullish inner => obtain rfl := List.mem_singleton.1 h; simp
  | _ => cases h

/-! ## The greatest limit -/

namespace Schema

theorem greatestLimit_le_ofAll : ∀ {l : List Schema} {s : Schema}, s ∈ l → s.greatestLimit ≤ greatestLimitOfAll l
  | t :: l, s, h => by
    rw [greatestLimitOfAll]
    rcases List.mem_cons.1 h with rfl | h
    · exact Nat.le_max_left _ _
    · exact (greatestLimit_le_ofAll h).trans (Nat.le_max_right _ _)

theorem greatestLimit_le_ofFields : ∀ {l : List (String × Schema)} {f : String × Schema}, f ∈ l →
    f.2.greatestLimit ≤ greatestLimitOfFields l
  | (name, t) :: l, f, h => by
    rw [greatestLimitOfFields]
    rcases List.mem_cons.1 h with rfl | h
    · exact Nat.le_max_left _ _
    · exact (greatestLimit_le_ofFields h).trans (Nat.le_max_right _ _)

end Schema

theorem Entries.mem_of_get? {α : Type} : ∀ {es : Entries α} {key : String} {a : α}, es.get? key = some a → (key, a) ∈ es
  | (k, b) :: rest, key, a, h => by
    rw [Entries.get?] at h
    split at h
    · rename_i hk
      obtain rfl : b = a := by simpa using h
      subst hk
      exact List.mem_cons_self
    · exact List.mem_cons_of_mem _ (Entries.mem_of_get? h)

namespace Registries

variable {rs : Registries}

theorem le_foldl_max : ∀ (l : List Nat) (n : Nat), n ≤ l.foldl max n ∧ ∀ m ∈ l, m ≤ l.foldl max n
  | [], n => ⟨Nat.le_refl n, fun m hm => by cases hm⟩
  | k :: l, n => by
    obtain ⟨hn, hl⟩ := le_foldl_max l (max n k)
    rw [List.foldl_cons]
    refine ⟨(Nat.le_max_left n k).trans hn, fun m hm => ?_⟩
    rcases List.mem_cons.1 hm with rfl | hm
    · exact (Nat.le_max_right n m).trans hn
    · exact hl m hm

theorem resolve_eq_ok_iff {r : Reference} {s : Schema} :
    rs.resolve r = .ok s ↔ rs.alive r.store = true ∧ (rs.contents r.store).get? r.name = some s := by
  unfold resolve
  cases rs.alive r.store with
  | false => exact ⟨nofun, fun h => nomatch h.1⟩
  | true =>
    cases (rs.contents r.store).get? r.name with
    | none => exact ⟨nofun, fun h => nomatch h.2⟩
    | some t => exact ⟨fun h => ⟨rfl, congrArg some (Except.ok.inj h)⟩, fun h => congrArg Except.ok (Option.some.inj h.2)⟩

theorem greatestLimit_le_of_resolve {r : Reference} {s : Schema} (h : rs.resolve r = .ok s) :
    s.greatestLimit ≤ (rs.stores.map Schema.greatestLimitOfFields).foldl max 0 := by
  have hmem := Entries.mem_of_get? (resolve_eq_ok_iff.1 h).2
  unfold contents at hmem
  cases hs : rs.stores[r.store]? with
  | none => rw [hs] at hmem; cases hmem
  | some store =>
    rw [hs] at hmem
    exact (Schema.greatestLimit_le_ofFields hmem).trans
      ((le_foldl_max _ 0).2 _ (List.mem_map_of_mem (List.mem_of_getElem? hs)))

theorem limit_le_greatestLimit (r : Reference) : r.limit ≤ rs.greatestLimit (.reference r) := Nat.le_max_left _ _

/-- **No call meets a limit that was not there before it.** -/
theorem greatestLimit_le_of_calls {c d : Call} (h : rs.Calls c d) :
    rs.greatestLimit d.schema ≤ rs.greatestLimit c.schema := by
  cases h with
  | reference _ hr => exact max_le ((greatestLimit_le_of_resolve hr).trans (Nat.le_max_right _ _)) (Nat.le_max_right _ _)
  | field hf => exact max_le_max (Schema.greatestLimit_le_ofFields hf) (Nat.le_refl _)
  | candidate hs => exact max_le_max (Schema.greatestLimit_le_ofAll hs) (Nat.le_refl _)
  | _ => exact Nat.le_refl _

/-- **The count of a call is that of the call that makes it, and one more if that follows a reference.** -/
theorem references_of_calls {c d : Call} (h : rs.Calls c d) :
    d.path.references = c.path.references + c.schema.hops := by
  cases h <;> rfl

theorem hops_le_of_calls {c d : Call} (h : rs.Calls c d) :
    c.path.references + c.schema.hops ≤ max c.path.references (rs.greatestLimit c.schema) := by
  cases h with
  | @reference r _ _ _ hlt _ =>
    exact (Nat.succ_le_of_lt hlt).trans ((limit_le_greatestLimit r).trans (Nat.le_max_right _ _))
  | _ => exact Nat.le_max_left _ _

/-- **A call that follows no reference asks a child of its schema.** -/
theorem mem_children_of_calls {c d : Call} (h : rs.Calls c d) (h0 : c.schema.hops = 0) :
    d.schema ∈ c.schema.children := by
  cases h with
  | field hf => exact List.mem_map_of_mem hf
  | candidate hs => exact hs
  | reference _ _ => cases h0
  | _ => exact List.mem_singleton.2 rfl

/-! ## Validation as one call after the other -/

/-- **No chain of calls goes on for ever**, whatever leads back to whatever. -/
theorem calls_wf (rs : Registries) : WellFounded fun d c => rs.Calls c d := by
  -- the hops that the limits still leave to a call come first, the size of its schema second
  refine Subrelation.wf (fun {d c} h => ?_)
    (InvImage.wf (fun c : Call => (rs.greatestLimit c.schema - c.path.references, sizeOf c.schema))
      (WellFounded.prod_lex Nat.lt_wfRel.wf Nat.lt_wfRel.wf))
  have hlimit := greatestLimit_le_of_calls h
  have hrefs := references_of_calls h
  have hhops := hops_le_of_calls h
  have key : rs.greatestLimit d.schema - d.path.references < rs.greatestLimit c.schema - c.path.references ∨
      rs.greatestLimit d.schema - d.path.references = rs.greatestLimit c.schema - c.path.references ∧
        sizeOf d.schema < sizeOf c.schema := by
    by_cases h0 : c.schema.hops = 0
    · have hsize := Schema.sizeOf_lt_of_mem_children (mem_children_of_calls h h0)
      omega
    · omega
  exact Prod.lex_def.2 key

/-- **What every call has if the calls it makes have it, all calls have.** -/
theorem call_induction (rs : Registries) {motive : Call → Prop}
    (step : ∀ c, (∀ d, rs.Calls c d → motive d) → motive c) (c : Call) : motive c :=
  rs.calls_wf.induction c step

/-- **One call**: what it comes to, where `ask` says what every call that it makes comes to. -/
def answer (rs : Registries) (ask : Schema → Check) : Schema → Check
  | .string rules => (Validator.string rules).check
  | .number rules => (Validator.number rules).check
  | .boolean typeMessage => (Validator.boolean typeMessage).check
  | .enumeration options message => (Validator.enumeration options message).check
  | .array rules item => (Validator.array rules (.ofCheck (ask item))).check
  | .object shape => (Validator.object (shape.map ask)).check
  | .union candidates => .union (candidates.map ask)
  | .optional inner => (Validator.ofCheck (ask inner)).optional.check
  | .nullable inner => (Validator.ofCheck (ask inner)).nullable.check
  | .nullish inner => (Validator.ofCheck (ask inner)).nullish.check
  | .default inner supplier => ((Validator.ofCheck (ask inner)).default supplier).check
  | .refine inner refinement => ((Validator.ofCheck (ask inner)).refine refinement).check
  | .transform inner mapping => ((Validator.ofCheck (ask inner)).transform mapping id).check
  | .reference r => fun v path =>
    if r.limit ≤ path.references then refuse path (.tooDeep r.limit path)
    else
      match rs.resolve r with
      | .ok s => ask s v path.followed
      | .error fault => refuse path fault
  | .custom check => check

end Registries

/-! ## What a call depends on -/

@[simp] theorem Shape.keys_map {σ τ : Type} (s : Shape σ) (f : σ → τ) : (s.map f).keys = s.keys := by
  simp [Shape.map, Shape.keys, Entries.keys, Entries.mapValues]

theorem Shape.fieldOutcomes_map {σ : Type} (s : Shape σ) (f : σ → Check) (path : Path) (entries : Entries Value) :
    (s.map f).fieldOutcomes path entries =
      s.fields.map fun e => f e.2 ((Entries.get? entries e.1).getD .undefined) (path.field e.1) := by
  simp [Shape.map, Shape.fieldOutcomes, Entries.mapValues, Function.comp_def]

theorem Shape.assemble_congr {s t : Shape Check} (hk : s.keys = t.keys) (hu : s.unknownKeys = t.unknownKeys) :
    s.assemble = t.assemble := by
  funext path entries verdicts
  simp only [Shape.assemble, Shape.unknownIssues, Shape.carriedOver, Shape.undeclared, hk, hu]

theorem scanCandidates_congr {f g : Schema → Check} {v : Value} {path : Path} : ∀ (candidates : List Schema),
    (∀ s ∈ candidates, f s v path = g s v path) → ∀ (refused : Report) (waiting : List (Deferred (Verdict Value))),
      scanCandidates v path refused waiting (candidates.map f) =
        scanCandidates v path refused waiting (candidates.map g)
  | [], _, _, _ => rfl
  | s :: rest, h, refused, waiting => by
    have ih := scanCandidates_congr rest fun t ht => h t (List.mem_cons_of_mem s ht)
    simp only [List.map_cons, scanCandidates, h s List.mem_cons_self, ih]

theorem Supplier.call_bind_congr {α : Type} {s : Supplier} {f g : Except String Value → Outcome α}
    (hok : ∀ v, s.Gives v → f (.ok v) = g (.ok v)) (herror : ∀ reason, f (.error reason) = g (.error reason)) :
    s.call.bind f = s.call.bind g := by
  obtain ⟨source, step⟩ := s
  cases source with
  | given answer =>
    have h : f answer = g answer := by
      cases answer with
      | ok v => exact hok v rfl
      | error reason => exact herror reason
    simp only [Supplier.call, Step.call_bind, h]
  | counted counter start =>
    have h : ∀ n : Nat, f (.ok (.ofInt (start + n))) = g (.ok (.ofInt (start + n))) := fun n => hok _ ⟨n, rfl⟩
    simp only [Supplier.call, Outcome.bind_draw, Step.call_bind, h]

namespace Registries

variable {rs : Registries}

/-- **A call depends on nothing but the calls that it can make.** -/
theorem answer_congr {f g : Schema → Check} {c : Call}
    (h : ∀ d, rs.Calls c d → f d.schema d.value d.path = g d.schema d.value d.path) :
    rs.answer f c.schema c.value c.path = rs.answer g c.schema c.value c.path := by
  obtain ⟨s, v, path⟩ := c
  have inner : ∀ {t : Schema} {w : Value} {q : Path}, rs.Calls ⟨s, v, path⟩ ⟨t, w, q⟩ → f t w q = g t w q :=
    fun hc => h _ hc
  cases s with
  | array rules item =>
    cases v with
    | array items =>
      have hitems : (items.mapIdx fun i w => f item w (path.index i)) =
          items.mapIdx fun i w => g item w (path.index i) :=
        List.mapIdx_eq_mapIdx_iff.2 fun i hi => inner (.item (List.getElem?_eq_getElem hi))
      simp only [answer, Validator.check, Validator.array, Validator.ofCheck, hitems]
    | _ => rfl
  | object shape =>
    cases v with
    | object entries =>
      have hfields : (shape.map f).fieldOutcomes path entries = (shape.map g).fieldOutcomes path entries := by
        rw [Shape.fieldOutcomes_map, Shape.fieldOutcomes_map]
        exact List.map_congr_left fun e he => inner (.field he)
      have hassemble : (shape.map f).assemble = (shape.map g).assemble := Shape.assemble_congr (by simp) rfl
      simp only [answer, Validator.check, Validator.object, hfields, hassemble]
    | _ => rfl
  | union candidates =>
    have hscan := scanCandidates_congr candidates (fun t ht => inner (.candidate ht))
    simp only [answer, Check.union, List.isEmpty_map, hscan]
  | optional t =>
    cases hv : v.isUndefined with
    | true => simp only [answer, Validator.check, Validator.optional, Validator.ofCheck, hv, if_true]
    | false => simp only [answer, Validator.check, Validator.optional, Validator.ofCheck, inner (.optional hv)]
  | nullable t =>
    cases hv : v.isNull with
    | true => simp only [answer, Validator.check, Validator.nullable, Validator.ofCheck, hv, if_true]
    | false => simp only [answer, Validator.check, Validator.nullable, Validator.ofCheck, inner (.nullable hv)]
  | nullish t =>
    cases v with
    | undefined => rfl
    | null => rfl
    | _ => simp only [answer, Validator.check, Validator.nullish, Validator.ofCheck, inner (.nullish rfl rfl)]
  | default t supplier =>
    cases hv : v.isUndefined with
    | true =>
      obtain rfl := Value.eq_undefined hv
      simp only [answer, Validator.check, Validator.default, Validator.ofCheck, hv, if_true]
      exact congrArg _ (Supplier.call_bind_congr (fun w hw => inner (.supplied hw)) fun _ => rfl)
    | false =>
      simp only [answer, Validator.check, Validator.default, Validator.ofCheck, hv, Bool.false_eq_true, if_false,
        inner (.default hv)]
  | refine t refinement => simp only [answer, Validator.check, Validator.refine, Validator.ofCheck, inner .refine]
  | transform t mapping => simp only [answer, Validator.check, Validator.transform, Validator.ofCheck, inner .transform]
  | reference r =>
    simp only [answer]
    split
    · rfl
    · rename_i hlt
      split
      · rename_i t ht
        exact inner (.reference (Nat.lt_of_not_le hlt) ht)
      · rfl
  | _ => rfl

/-! ## Validation is what its calls make of each other -/

theorem enough_of_calls {c d : Call} (h : rs.Calls c d) {hops : Nat}
    (enough : rs.greatestLimit c.schema ≤ hops + c.path.references) :
    rs.greatestLimit d.schema ≤ hops - c.schema.hops + d.path.references := by
  have hlimit := greatestLimit_le_of_calls h
  have hrefs := references_of_calls h
  omega

theorem check_follow_eq_answer {hops : Nat} {c : Call}
    (enough : rs.greatestLimit c.schema ≤ hops + c.path.references) :
    c.schema.check (rs.follow hops) c.value c.path =
      rs.answer (fun t => t.check (rs.follow (hops - c.schema.hops))) c.schema c.value c.path := by
  obtain ⟨s, v, path⟩ := c
  cases s with
  | object shape => simp only [Schema.check_object, answer, Schema.hops, Nat.sub_zero]
  | union candidates => simp only [Schema.check, Schema.checkAll_eq_map, answer, Schema.hops, Nat.sub_zero]
  | reference r =>
    have hlimit : r.limit ≤ hops + path.references := (limit_le_greatestLimit r).trans enough
    simp only [Schema.check, follow_eq rs hops r v path hlimit]
    rfl
  | _ => rfl

/-- **How many hops are allowed makes no difference** once they are enough. -/
theorem check_follow_congr (rs : Registries) (c : Call) : ∀ {hops hops' : Nat},
    rs.greatestLimit c.schema ≤ hops + c.path.references → rs.greatestLimit c.schema ≤ hops' + c.path.references →
      c.schema.check (rs.follow hops) c.value c.path = c.schema.check (rs.follow hops') c.value c.path := by
  induction c using rs.call_induction with
  | step c ih =>
    intro hops hops' enough enough'
    rw [check_follow_eq_answer enough, check_follow_eq_answer enough']
    exact answer_congr fun d hd => ih d hd (enough_of_calls hd enough) (enough_of_calls hd enough')

/-- **Validation is what its calls make of each other**: no count of hops is left in it. -/
theorem check_eq_answer (rs : Registries) (s : Schema) (v : Value) (path : Path) :
    rs.check s v path = rs.answer rs.check s v path := by
  let c : Call := ⟨s, v, path⟩
  have enough : rs.greatestLimit s ≤ rs.greatestLimit s - path.references + path.references := by omega
  unfold check
  rw [check_follow_eq_answer (c := c) enough]
  refine answer_congr (c := c) fun d hd => ?_
  exact check_follow_congr rs d (enough_of_calls hd enough) (by omega)

theorem check_eq (rs : Registries) (s : Schema) : rs.check s = rs.answer rs.check s :=
  funext fun v => funext fun path => rs.check_eq_answer s v path

/-- **Nothing else answers every call by the calls that it makes.** -/
theorem eq_check_of_eq_answer {f : Schema → Check} (h : ∀ s v path, f s v path = rs.answer f s v path) :
    f = rs.check := by
  have key : ∀ c : Call, f c.schema c.value c.path = rs.check c.schema c.value c.path := fun c => by
    induction c using rs.call_induction with
    | step c ih => rw [h, check_eq_answer, answer_congr ih]
  funext s v path
  exact key ⟨s, v, path⟩

end Registries
end Schemata
