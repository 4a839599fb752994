import Mathlib.Logic.Relation
import Schemata.Proofs.Acceptance
import Schemata.Proofs.Certainty
import Schemata.Proofs.Clauses
import Schemata.Proofs.Growth
/-!
# Relaxation — asking for less changes no output

A schema is relaxed step by step (`Schema.Relaxation`): somewhere in it a refinement goes, or a rule, an option comes to
an enumeration, undeclared entries are stripped that were refused, or more references may be followed.  What is taken
away only ever refused, so what was accepted stays accepted with the same output
(`Registries.settle_check_of_relaxed`); but in a union another candidate may come to decide.

Steps one after the other come down to one pass over the tree (`Schema.RelaxedTo`), which drops refinements on its way
and compares the nodes that are left.  So the law is proved by one induction on the calls, however many the steps.
-/
namespace Schemata

variable {rs rs' : Registries}

/-- The same rules but for some that are dropped, in whatever words. -/
def Rules.LoosenedTo {κ : Type} (rules rules' : Rules κ) : Prop :=
  (rules'.constraints.map Constraint.rule).Sublist (rules.constraints.map Constraint.rule)

namespace Schema

/-- **The same node, or one that asks for less**, above whatever subtrees. -/
inductive LoosenedTo : Schema → Schema → Prop where
  | string {rules rules' : Rules TextRule} : rules.LoosenedTo rules' → LoosenedTo (.string rules) (.string rules')
  | number {rules rules' : Rules NumericRule} : rules.LoosenedTo rules' → LoosenedTo (.number rules) (.number rules')
  | boolean (typeMessage typeMessage' : Option String) : LoosenedTo (.boolean typeMessage) (.boolean typeMessage')
  | enumeration {options options' : List String} (message message' : Option String) : options ⊆ options' →
      LoosenedTo (.enumeration options message) (.enumeration options' message')
  | array {rules rules' : Rules LengthRule} (item item' : Schema) : rules.LoosenedTo rules' →
      LoosenedTo (.array rules item) (.array rules' item')
  | object {shape shape' : Shape Schema} : shape.keys = shape'.keys →
      (shape.unknownKeys = shape'.unknownKeys ∨ shape.unknownKeys = .strict ∧ shape'.unknownKeys = .strip) →
      LoosenedTo (.object shape) (.object shape')
  | union (candidates candidates' : List Schema) : LoosenedTo (.union candidates) (.union candidates')
  | optional (inner inner' : Schema) : LoosenedTo (.optional inner) (.optional inner')
  | nullable (inner inner' : Schema) : LoosenedTo (.nullable inner) (.nullable inner')
  | nullish (inner inner' : Schema) : LoosenedTo (.nullish inner) (.nullish inner')
  | default (inner inner' : Schema) (supplier : Supplier) :
      LoosenedTo (.default inner supplier) (.default inner' supplier)
  | refine (inner inner' : Schema) (refinement : Refinement Value) :
      LoosenedTo (.refine inner refinement) (.refine inner' refinement)
  | transform (inner inner' : Schema) (mapping : Mapping Value Value) :
      LoosenedTo (.transform inner mapping) (.transform inner' mapping)
  | reference {r r' : Reference} : r'.store = r.store → r'.name = r.name → r.limit ≤ r'.limit →
      LoosenedTo (.reference r) (.reference r')
  | custom (check : Check) : LoosenedTo (.custom check) (.custom check)

/-- **One step of relaxing a schema**: a refinement is removed, or a node loosened, right here or anywhere inside. -/
inductive Relaxation : Schema → Schema → Prop where
  | unrefined (inner : Schema) (refinement : Refinement Value) : Relaxation (.refine inner refinement) inner
  | node {s s' : Schema} : s.LoosenedTo s' → s.children = s'.children → Relaxation s s'
  | inside {s s' c c' : Schema} (before after : List Schema) : s.LoosenedTo s' → s.children = before ++ c :: after →
      s'.children = before ++ c' :: after → Relaxation c c' → Relaxation s s'

/-- **A tree relaxed in one pass**: refinements are left out, and the nodes that stay are loosened. -/
inductive RelaxedTo : Schema → Schema → Prop where
  | node {s s' : Schema} : s.LoosenedTo s' → List.Forall₂ RelaxedTo s.children s'.children → RelaxedTo s s'
  | unrefined {inner s' : Schema} {refinement : Refinement Value} : RelaxedTo inner s' →
      RelaxedTo (.refine inner refinement) s'

end Schema

/-! ## Steps in a row are one pass -/

namespace Rules.LoosenedTo

variable {κ σ : Type}

theorem refl (rules : Rules κ) : rules.LoosenedTo rules := List.Sublist.refl _

theorem trans {rules rules' rules'' : Rules κ} (h : rules.LoosenedTo rules') (h' : rules'.LoosenedTo rules'') :
    rules.LoosenedTo rules'' := List.Sublist.trans h' h

end Rules.LoosenedTo

theorem forall₂_trans_of_mem {α β γ : Type} {R : α → β → Prop} {S : β → γ → Prop} {T : α → γ → Prop} {l : List α}
    {m : List β} {n : List γ} (h : List.Forall₂ R l m) (h' : List.Forall₂ S m n)
    (htrans : ∀ a ∈ l, ∀ b c, R a b → S b c → T a c) : List.Forall₂ T l n := by
  induction h generalizing n with
  | nil =>
    cases h'
    exact .nil
  | cons hab _ ih =>
    cases h' with
    | cons hbc hrest =>
      exact .cons (htrans _ List.mem_cons_self _ _ hab hbc)
        (ih hrest fun a ha => htrans a (List.mem_cons_of_mem _ ha))

namespace Schema

theorem LoosenedTo.refl (s : Schema) : s.LoosenedTo s := by
  cases s with
  | string rules => exact .string (.refl rules)
  | number rules => exact .number (.refl rules)
  | boolean typeMessage => exact .boolean _ _
  | enumeration options message => exact .enumeration _ _ (List.Subset.refl _)
  | array rules item => exact .array _ _ (.refl rules)
  | object shape => exact .object rfl (.inl rfl)
  | union candidates => exact .union _ _
  | optional inner => exact .optional _ _
  | nullable inner => exact .nullable _ _
  | nullish inner => exact .nullish _ _
  | default inner supplier => exact .default _ _ _
  | refine inner refinement => exact .refine _ _ _
  | transform inner mapping => exact .transform _ _ _
  | reference r => exact .reference rfl rfl (Nat.le_refl _)
  | custom check => exact .custom _

theorem LoosenedTo.trans {a b c : Schema} (h : a.LoosenedTo b) (h' : b.LoosenedTo c) : a.LoosenedTo c := by
  cases h with
  | string hr =>
    cases h' with
    | string hr' => exact .string (hr.trans hr')
  | number hr =>
    cases h' with
    | number hr' => exact .number (hr.trans hr')
  | enumeration _ _ ho =>
    cases h' with
    | enumeration _ _ ho' => exact .enumeration _ _ (List.Subset.trans ho ho')
  | array _ _ hr =>
    cases h' with
    | array _ _ hr' => exact .array _ _ (hr.trans hr')
  | object hkeys hmode =>
    cases h' with
    | object hkeys' hmode' =>
      refine .object (hkeys.trans hkeys') ?_
      rcases hmode with hmode | ⟨hstrict, hstrip⟩
      · rwa [hmode]
      · rcases hmode' with hmode' | ⟨hstrict', -⟩
        · exact .inr ⟨hstrict, hmode' ▸ hstrip⟩
        · cases hstrip.symm.trans hstrict'
  | reference hstore hname hlimit =>
    cases h' with
    | reference hstore' hname' hlimit' =>
      exact .reference (hstore'.trans hstore) (hname'.trans hname) (Nat.le_trans hlimit hlimit')
  | boolean _ _ => cases h'; exact .boolean _ _
  | union _ _ => cases h'; exact .union _ _
  | optional _ _ => cases h'; exact .optional _ _
  | nullable _ _ => cases h'; exact .nullable _ _
  | nullish _ _ => cases h'; exact .nullish _ _
  | default _ _ _ => cases h'; exact .default _ _ _
  | refine _ _ _ => cases h'; exact .refine _ _ _
  | transform _ _ _ => cases h'; exact .transform _ _ _
  | custom _ => exact h'

theorem LoosenedTo.exists_eq_refine {s inner' : Schema} {r : Refinement Value} (h : s.LoosenedTo (.refine inner' r)) :
    ∃ inner, s = .refine inner r := by
  cases h with
  | refine inner _ _ => exact ⟨inner, rfl⟩

namespace RelaxedTo

theorem refl (s : Schema) : s.RelaxedTo s := .node (.refl s) (List.forall₂_same.2 fun c _ => refl c)
termination_by sizeOf s
decreasing_by exact Schema.sizeOf_lt_of_mem_children ‹_›

theorem node_or_unrefined {s s' : Schema} (h : s.RelaxedTo s') :
    (s.LoosenedTo s' ∧ List.Forall₂ RelaxedTo s.children s'.children) ∨
      ∃ inner r, s = .refine inner r ∧ inner.RelaxedTo s' := by
  cases h with
  | node hnode hchildren => exact .inl ⟨hnode, hchildren⟩
  | unrefined hinner => exact .inr ⟨_, _, rfl, hinner⟩

/-- **Two passes are one.** -/
theorem trans {a b c : Schema} (h : a.RelaxedTo b) (h' : b.RelaxedTo c) : a.RelaxedTo c := by
  rcases h.node_or_unrefined with ⟨hnode, hchildren⟩ | ⟨inner, r, ha, hinner⟩
  · rcases h'.node_or_unrefined with ⟨hnode', hchildren'⟩ | ⟨inner', r, hb, hinner'⟩
    · refine .node (hnode.trans hnode') (forall₂_trans_of_mem hchildren hchildren' fun d hd _ _ hde hef => ?_)
      exact hde.trans hef
    · -- the second pass removes a refinement that the first one kept
      rw [hb] at hnode hchildren
      obtain ⟨inner, ha⟩ := hnode.exists_eq_refine
      have hmem : inner ∈ a.children := ha ▸ List.mem_cons_self
      rw [ha] at hchildren ⊢
      exact .unrefined ((List.forall₂_cons.1 hchildren).1.trans hinner')
  · have hmem : inner ∈ a.children := ha ▸ List.mem_cons_self
    rw [ha]
    exact .unrefined (hinner.trans h')
termination_by sizeOf a
decreasing_by
  · exact sizeOf_lt_of_mem_children hd
  · exact sizeOf_lt_of_mem_children hmem
  · exact sizeOf_lt_of_mem_children hmem

theorem of_relaxation {s s' : Schema} (h : s.Relaxation s') : s.RelaxedTo s' := by
  induction h with
  | unrefined inner refinement => exact .unrefined (refl inner)
  | node hnode hchildren => exact .node hnode (hchildren ▸ List.forall₂_same.2 fun c _ => refl c)
  | inside _ _ hnode hchildren hchildren' _ ih =>
    refine .node hnode ?_
    rw [hchildren, hchildren']
    exact List.rel_append (List.forall₂_same.2 fun c _ => refl c) (.cons ih (List.forall₂_same.2 fun c _ => refl c))

/-- **Any number of steps are one pass.** -/
theorem of_relaxations {s s' : Schema} (h : Relation.ReflTransGen Relaxation s s') : s.RelaxedTo s' := by
  induction h with
  | refl => exact refl s
  | tail _ hstep ih => exact ih.trans (of_relaxation hstep)

end RelaxedTo
end Schema

/-! ## What is accepted stays accepted -/

namespace Rules

variable {κ σ : Type} [Rule κ σ]

/-- **What breaks no rule breaks none of fewer.** -/
theorem LoosenedTo.violations_eq_nil {rules rules' : Rules κ} (h : rules.LoosenedTo rules') {path : Path} {x : σ}
    (hnil : rules.violations path x = []) : rules'.violations path x = [] := by
  rw [violations_eq_nil_iff] at hnil ⊢
  exact fun k hk => hnil k (h.subset hk)

theorem LoosenedTo.firstViolation_eq_ok {rules rules' : Rules κ} (h : rules.LoosenedTo rules') {path : Path} {x y : σ}
    (hok : rules.firstViolation path x = .ok y) : rules'.firstViolation path x = .ok y := by
  rw [firstViolation_eq_ok_iff] at hok ⊢
  exact ⟨h.violations_eq_nil hok.1, hok.2⟩

theorem LoosenedTo.plan_of_taken {rules rules' : Rules κ} (h : rules.LoosenedTo rules') {path : Path} {x : σ}
    {f : σ → Value} {w : Value}
    (hplan : Plan.leaf ((Outcome.ready (rules.firstViolation path x)).mapSuccess f) = .leaf (.ready (.ok w))) :
    Plan.leaf ((Outcome.ready (rules'.firstViolation path x)).mapSuccess f) = .leaf (.ready (.ok w)) := by
  cases hfirst : rules.firstViolation path x with
  | error r =>
    rw [hfirst] at hplan
    cases hplan
  | ok y =>
    rw [hfirst] at hplan
    rw [h.firstViolation_eq_ok hfirst]
    exact hplan

end Rules

/-- **Fields that a strict object accepts are accepted when others are stripped**, with the same output. -/
theorem Shape.assemble_eq_ok_of_loosened {s t : Shape Check} (hkeys : s.keys = t.keys)
    (hmode : s.unknownKeys = t.unknownKeys ∨ s.unknownKeys = .strict ∧ t.unknownKeys = .strip) {path : Path}
    {entries out : Entries Value} {verdicts : List (Verdict Value)} (h : s.assemble path entries verdicts = .ok out) :
    t.assemble path entries verdicts = .ok out := by
  obtain ⟨hunknown, hissues, hout⟩ := (assemble_eq_ok_iff out).1 h
  refine (assemble_eq_ok_iff out).2 ⟨?_, hissues, ?_⟩
  · rcases hmode with hmode | ⟨-, hstrip⟩
    · rw [← hunknown]
      simp only [unknownIssues, undeclared, hkeys, hmode]
    · simp only [unknownIssues, hstrip]
  · rw [hout, hkeys]
    rcases hmode with hmode | ⟨hstrict, hstrip⟩
    · simp only [carriedOver, undeclared, hkeys, hmode]
    · simp only [carriedOver, hstrict, hstrip]

theorem Registries.resolve_congr {r r' : Reference} (hstore : r'.store = r.store) (hname : r'.name = r.name) :
    rs.resolve r' = rs.resolve r := by
  unfold resolve
  rw [hstore, hname]

namespace Schema.LoosenedTo

variable {s s' : Schema} {v : Value} {path : Path}

/-- **A value that a node takes as it is, it takes when it is loosened.** -/
theorem plan_of_taken (h : s.LoosenedTo s') (hplan : rs.plan ⟨s, v, path⟩ = .leaf (.ready (.ok v)))
    (library : ∀ check, s ≠ .custom check) : rs'.plan ⟨s', v, path⟩ = .leaf (.ready (.ok v)) := by
  cases h with
  | string hrules =>
    cases v with
    | string x => exact hrules.plan_of_taken hplan
    | _ => cases hplan
  | number hrules =>
    cases v with
    | number x =>
      simp only [Registries.plan, Validator.check, Validator.number] at hplan ⊢
      split at hplan
      · cases hplan
      · rename_i hnan
        rw [if_neg hnan]
        exact hrules.plan_of_taken hplan
    | _ => cases hplan
  | boolean _ _ =>
    cases v with
    | bool b => rfl
    | _ => cases hplan
  | enumeration _ _ hoptions =>
    cases v with
    | string x =>
      simp only [Registries.plan, Validator.check, Validator.enumeration] at hplan ⊢
      split at hplan
      · rename_i hmem
        rw [if_pos (hoptions hmem)]
        rfl
      · cases hplan
    | _ => cases hplan
  | array _ _ hrules => cases v <;> cases hplan
  | object hkeys hmode => cases v <;> cases hplan
  | union candidates _ => cases candidates <;> cases hplan
  | optional _ _ =>
    simp only [Registries.plan] at hplan ⊢
    split at hplan
    · rename_i hv
      rwa [if_pos hv]
    · cases hplan
  | nullable _ _ =>
    simp only [Registries.plan] at hplan ⊢
    split at hplan
    · rename_i hv
      rwa [if_pos hv]
    · cases hplan
  | nullish _ _ =>
    cases v with
    | undefined => rfl
    | null => rfl
    | _ => cases hplan
  | default _ _ _ =>
    simp only [Registries.plan] at hplan
    split at hplan <;> cases hplan
  | refine _ _ _ => cases hplan
  | transform _ _ _ => cases hplan
  | @reference r _ _ _ _ =>
    simp only [Registries.plan] at hplan
    split at hplan
    · cases hplan
    · cases hr : rs.resolve r <;> rw [hr] at hplan <;> cases hplan
  | custom check => exact absurd rfl (library check)

end Schema.LoosenedTo

namespace Registries

/-- **Every name that is found in the one registry is found in the other**, under the same schema or one relaxed from it
by any number of steps. -/
def RelaxedTo (rs rs' : Registries) : Prop :=
  ∀ r t, rs.resolve r = .ok t → ∃ t', rs'.resolve r = .ok t' ∧ Relation.ReflTransGen Schema.Relaxation t t'

/-- A registry as it is counts as relaxed, by no step at all. -/
theorem RelaxedTo.refl (rs : Registries) : rs.RelaxedTo rs := fun _ t hr => ⟨t, hr, .refl⟩

/-- **A call that is passed on is passed on by a loosened node**, to the same schema relaxed. -/
theorem plan_of_same (hrs : rs.RelaxedTo rs') {s s' : Schema} {v : Value} {path : Path} {d : Call}
    (h : s.LoosenedTo s') (hchildren : List.Forall₂ Schema.RelaxedTo s.children s'.children)
    (hplan : rs.plan ⟨s, v, path⟩ = .same d) :
    ∃ t', rs'.plan ⟨s', v, path⟩ = .same ⟨t', d.value, d.path⟩ ∧ d.schema.RelaxedTo t' := by
  -- a modifier takes some values itself, and asks what is inside about the others
  have passed : ∀ {inner inner' : Schema} {takes : Bool} {p p' : Plan},
      (if takes then p else .same ⟨inner, v, path⟩) = .same d → p ≠ .same d →
      List.Forall₂ Schema.RelaxedTo [inner] [inner'] →
        ∃ t', (if takes then p' else .same ⟨inner', v, path⟩) = .same ⟨t', d.value, d.path⟩ ∧
          d.schema.RelaxedTo t' := by
    intro inner inner' takes p p' hplan hp hinner
    cases takes with
    | true => exact absurd hplan hp
    | false =>
      obtain rfl := Plan.same.inj hplan
      exact ⟨inner', rfl, (List.forall₂_cons.1 hinner).1⟩
  cases h with
  | array _ _ _ => cases v <;> cases hplan
  | object _ _ => cases v <;> cases hplan
  | union candidates _ => cases candidates <;> cases hplan
  | optional _ _ => exact passed hplan nofun hchildren
  | nullable _ _ => exact passed hplan nofun hchildren
  | nullish inner inner' =>
    cases v with
    | undefined => cases hplan
    | null => cases hplan
    | _ =>
      obtain rfl := Plan.same.inj hplan
      exact ⟨inner', rfl, (List.forall₂_cons.1 hchildren).1⟩
  | default _ _ _ => exact passed hplan nofun hchildren
  | @reference r r' hstore hname hlimit =>
    simp only [plan] at hplan ⊢
    split at hplan
    · cases hplan
    · rename_i hlt
      cases hr : rs.resolve r with
      | error fault =>
        rw [hr] at hplan
        cases hplan
      | ok t =>
        rw [hr] at hplan
        obtain rfl := Plan.same.inj hplan
        obtain ⟨t', hr', ht'⟩ := hrs r t hr
        refine ⟨t', ?_, .of_relaxations ht'⟩
        rw [if_neg (by omega), resolve_congr hstore hname, hr']
  | _ => cases hplan

/-- **What comes of the calls of a node comes of the loosened node**, if its calls are accepted as they were. -/
theorem Accepts.certain_of_loosened (hrs : rs.RelaxedTo rs') {s s' : Schema} {v w : Value} {path : Path}
    (hnode : s.LoosenedTo s') (hchildren : List.Forall₂ Schema.RelaxedTo s.children s'.children)
    (determinate : s.Determinate) (library : ∀ check, s ≠ .custom check)
    (made : ∀ d, rs.Calls ⟨s, v, path⟩ d → ∀ {t' : Schema} {u : Value}, d.schema.RelaxedTo t' →
      (rs.validate d).Ends (.ok u) → (rs'.validate ⟨t', d.value, d.path⟩).Certain (.ok u))
    (h : rs.Accepts ⟨s, v, path⟩ w) : (rs'.validate ⟨s', v, path⟩).Certain (.ok w) := by
  cases h with
  | itself hplan => exact certain_of_taken (hnode.plan_of_taken hplan library)
  | same hplan hd =>
    obtain ⟨t', hplan', ht'⟩ := plan_of_same hrs hnode hchildren hplan
    exact certain_of_same hplan' (made _ (calls_of_same hplan) ht' hd)
  | @items rules item items outputs path hrules hall =>
    cases hnode with
    | array _ item' hloosened =>
      have hitem := (List.forall₂_cons.1 hchildren).1
      obtain ⟨hlen, hends⟩ := forall₂_mapIdx_left_iff.1 hall
      refine certain_array (hloosened.violations_eq_nil hrules) (forall₂_mapIdx_left_iff.2 ⟨hlen, fun i hi ho => ?_⟩)
      exact made _ (.item (List.getElem?_eq_getElem hi)) hitem (hends i hi ho)
  | @fields shape entries out outputs path hall hassemble =>
    cases hnode with
    | @object _ shape' hkeys hmode =>
      have hfields := forall₂_of_keys hkeys hchildren
      have hassemble' : (shape'.map rs'.check).assemble path entries (outputs.map .ok) = .ok out :=
        Shape.assemble_eq_ok_of_loosened (by simpa using hkeys) hmode hassemble
      refine certain_object hassemble' (List.forall₂_iff_get.2 ⟨?_, fun i hi ho => ?_⟩)
      · rw [List.length_map, ← hfields.length_eq, ← hall.length_eq, List.length_map]
      · rw [List.length_map] at hi
        have hi' : i < shape.fields.length := hfields.length_eq ▸ hi
        obtain ⟨hname, hfield⟩ := hfields.get hi' hi
        have hout := hall.get (by rwa [List.length_map]) ho
        simp only [List.get_eq_getElem, List.getElem_map, fieldCall] at hout hname hfield ⊢
        rw [← hname]
        exact made _ (.field (List.getElem_mem hi')) hfield hout
  | candidate _ _ => exact determinate.elim
  | supplied hgives hd =>
    cases hnode with
    | default _ _ _ =>
      exact certain_of_supplied determinate hgives (made _ (.supplied hgives) (List.forall₂_cons.1 hchildren).1 hd)
  | @refined inner r _ _ path hd htest =>
    cases hnode with
    | refine _ inner' _ =>
      have hjudge : r.judge path w = .ok w := if_pos htest
      have hcertain := made _ .refine (List.forall₂_cons.1 hchildren).1 hd
      exact hjudge ▸ certain_of_effect (c := ⟨.refine inner' r, v, path⟩) rfl hcertain
  | @transformed inner m _ u _ path hd hmap =>
    cases hnode with
    | transform _ inner' _ =>
      have hjudge : m.judge path u = .ok w := by rw [Mapping.judge, hmap]
      have hcertain := made _ .transform (List.forall₂_cons.1 hchildren).1 hd
      exact hjudge ▸ certain_of_effect (c := ⟨.transform inner' m, v, path⟩) rfl hcertain

/-- **What was accepted is accepted by the relaxed schema**, with the same output. -/
theorem certain_of_relaxedTo (hrs : rs.RelaxedTo rs') (c : Call) :
    (∀ t, rs.Reaches c.schema t → t.Determinate ∧ t.Loud) → ∀ {s' : Schema} {w : Value}, c.schema.RelaxedTo s' →
      (rs.validate c).Ends (.ok w) → (rs'.validate ⟨s', c.value, c.path⟩).Certain (.ok w) := by
  induction c using rs.call_induction with
  | step c ih =>
    intro pure s' w hrelaxed hw
    have own := (pure c.schema (.here c.schema)).1
    have made : ∀ d, rs.Calls c d → ∀ {t' : Schema} {u : Value}, d.schema.RelaxedTo t' →
        (rs.validate d).Ends (.ok u) → (rs'.validate ⟨t', d.value, d.path⟩).Certain (.ok u) := fun d hd =>
      ih d hd fun t ht => pure t (reaches_of_calls hd ht)
    obtain ⟨s, v, path⟩ := c
    dsimp only at pure hrelaxed own ⊢
    by_cases library : ∀ check, s ≠ .custom check
    · have haccepts := accepts_of_ends (fun t ht => (pure t ht).2) library hw
      cases hrelaxed with
      | unrefined hinner =>
        cases haccepts with
        | itself hplan => cases hplan
        | same hplan _ => cases hplan
        | refined hd _ => exact made _ .refine hinner hd
      | node hnode hchildren => exact haccepts.certain_of_loosened hrs hnode hchildren own library made
    · -- a user's check stays as it is, and comes to the same verdict every time
      obtain ⟨check, rfl⟩ := not_forall_not.1 library
      cases hrelaxed with
      | node hnode _ =>
        cases hnode with
        | custom _ =>
          obtain ⟨verdict, hverdict⟩ := own v path
          obtain rfl := hverdict _ hw
          exact hverdict

/-- **Relaxing a schema never rejects or changes an accepted value.**  Let no union be reached, all functions be pure
and no check of a user's fail without an issue.  Let a schema be relaxed by any number of steps, and maybe the schemas
that its references lead to.  Whatever value it accepts, at whatever place and however late, the relaxed schema accepts
and hands out the same. -/
theorem settle_check_of_relaxed (hrs : rs.RelaxedTo rs') {s s' : Schema}
    (hs : Relation.ReflTransGen Schema.Relaxation s s')
    (pure : ∀ t, rs.Reaches s t → t.Determinate ∧ t.Loud) {v w : Value} {path : Path} {counters : Counters}
    (h : ((rs.check s v path).settle counters).result = .ok w) (counters' : Counters) :
    ((rs'.check s' v path).settle counters').result = .ok w := by
  have hends : (rs.validate ⟨s, v, path⟩).Ends (.ok w) := h ▸ Outcome.ends_settle _ counters
  exact (certain_of_relaxedTo hrs ⟨s, v, path⟩ pure (.of_relaxations hs) hends).settle counters'

/-- A word, what kind of word it is, and maybe another such entry. -/
def wordEntry (word : Schema) (kinds : List String) (limit : Nat) (mode : UnknownKeys) : Schema :=
  .object ⟨[("word", word), ("kind", .enumeration kinds none), ("next", .optional (.reference ⟨0, "entry", limit⟩))],
    mode, none⟩

/-- A text that is not empty, which is found out late. -/
def someWord : Schema :=
  .refine (.string .empty) ⟨fun v => v.string? != some "", "must not be empty", ⟨some "word", .deferred 1⟩⟩

def narrowEntry : Schema := wordEntry someWord ["noun"] 2 .strict

def wideEntry : Schema := wordEntry (.string .empty) ["noun", "verb"] 5 .strip

/-- The one name is that of the entries. -/
def entriesOf (entry : Schema) : Registries := ⟨[[("entry", entry)]], [("r", ⟨0, 2⟩)]⟩

/-- Four steps lead there, three of them inside. -/
theorem relaxations_narrowEntry : Relation.ReflTransGen Schema.Relaxation narrowEntry wideEntry := by
  have inObject : ∀ (word word' : Schema) (kinds kinds' : List String) (limit limit' : Nat),
      (wordEntry word kinds limit .strict).LoosenedTo (wordEntry word' kinds' limit' .strict) := fun _ _ _ _ _ _ =>
    .object rfl (.inl rfl)
  have hword : narrowEntry.Relaxation (wordEntry (.string .empty) ["noun"] 2 .strict) :=
    .inside [] _ (inObject _ _ _ _ _ _) rfl rfl (.unrefined _ _)
  have hkind : (wordEntry (.string .empty) ["noun"] 2 .strict).Relaxation
      (wordEntry (.string .empty) ["noun", "verb"] 2 .strict) :=
    .inside [_] _ (inObject _ _ _ _ _ _) rfl rfl (.node (.enumeration _ _ (by simp)) rfl)
  have hnext : (wordEntry (.string .empty) ["noun", "verb"] 2 .strict).Relaxation
      (wordEntry (.string .empty) ["noun", "verb"] 5 .strict) :=
    .inside [_, _] [] (inObject _ _ _ _ _ _) rfl rfl
      (.inside [] [] (.optional _ _) rfl rfl (.node (.reference rfl rfl (by decide)) rfl))
  have hmode : (wordEntry (.string .empty) ["noun", "verb"] 5 .strict).Relaxation wideEntry :=
    .node (.object rfl (.inr ⟨rfl, rfl⟩)) rfl
  exact .head hword (.head hkind (.head hnext (.single hmode)))

theorem eq_entry_of_resolve {entry t : Schema} {r : Reference} (h : (entriesOf entry).resolve r = .ok t) :
    t = entry ∧ r.store = 0 ∧ r.name = "entry" := by
  obtain ⟨halive, hget⟩ := resolve_eq_ok_iff.1 h
  have hstore : 0 = r.store := by simpa [alive, entriesOf] using halive
  rw [← hstore] at hget
  obtain ⟨hname, rfl⟩ := Prod.mk.inj (List.mem_singleton.1 (Entries.mem_of_get? hget))
  exact ⟨rfl, hstore.symm, hname⟩

theorem relaxedTo_entriesOf : (entriesOf narrowEntry).RelaxedTo (entriesOf wideEntry) := by
  intro r t hr
  obtain ⟨rfl, hstore, hname⟩ := eq_entry_of_resolve hr
  refine ⟨wideEntry, resolve_eq_ok_iff.2 ⟨?_, ?_⟩, relaxations_narrowEntry⟩
  · rw [hstore]
    rfl
  · rw [hstore, hname]
    rfl

/-- All schemas that the entries lead to. -/
def narrowSchemas : List Schema :=
  [narrowEntry, someWord, .string .empty, .enumeration ["noun"] none, .optional (.reference ⟨0, "entry", 2⟩),
    .reference ⟨0, "entry", 2⟩]

theorem pure_narrowEntry {t : Schema} (h : (entriesOf narrowEntry).Reaches narrowEntry t) :
    t.Determinate ∧ t.Loud := by
  have hchildren : ∀ s ∈ narrowSchemas, ∀ c ∈ s.children, c ∈ narrowSchemas := by
    simp [narrowSchemas, narrowEntry, wordEntry, someWord, Schema.children]
  have hmem : t ∈ narrowSchemas :=
    h.invariant (P := (· ∈ narrowSchemas)) (fun s c hs hc => hchildren s hs c hc)
      (fun r s _ hs => (eq_entry_of_resolve hs).1 ▸ List.mem_cons_self) List.mem_cons_self
  have hpure : ∀ s ∈ narrowSchemas, s.Determinate ∧ s.Loud := by
    simp [narrowSchemas, narrowEntry, wordEntry, someWord, Schema.Determinate, Schema.Loud]
  exact hpure t hmem

/-- Two entries, one inside the other, that both accept. -/
theorem entries_stay_accepted :
    let next : Value := .object [("word", .string "b"), ("kind", .string "noun")]
    let v : Value := .object [("kind", .string "noun"), ("word", .string "a"), ("next", next)]
    let w : Value := .object [("word", .string "a"), ("kind", .string "noun"), ("next", next)]
    (entriesOf narrowEntry).RelaxedTo (entriesOf wideEntry) ∧
      Relation.ReflTransGen Schema.Relaxation narrowEntry wideEntry ∧
      (∀ t, (entriesOf narrowEntry).Reaches narrowEntry t → t.Determinate ∧ t.Loud) ∧
      (((entriesOf narrowEntry).check narrowEntry v .root).settle .fresh).result = .ok w ∧
      (((entriesOf wideEntry).check wideEntry v .root).settle .fresh).result = .ok w := by
  intro next v w
  have hnarrow : (((entriesOf narrowEntry).check narrowEntry v .root).settle .fresh).result = .ok w := by
    simp only [next, v, w]
    rfl
  exact ⟨relaxedTo_entriesOf, relaxations_narrowEntry, fun _ => pure_narrowEntry, hnarrow,
    settle_check_of_relaxed relaxedTo_entriesOf relaxations_narrowEntry (fun _ => pure_narrowEntry) hnarrow .fresh⟩

end Registries
end Schemata
