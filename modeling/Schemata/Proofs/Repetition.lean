import Schemata.Proofs.Repeating
import Schemata.Registry
/-!
# Repetition — an output is accepted again, as it is

Validators with outputs of any types are put together of those of this library, and refer to what is registered
(`Validator.Stable`).  What such a validator hands out, it hands out again when it is asked about it at the same place
(`Validator.settle_check_again`).  Unions choose among validators that only accept or refuse (`Validator.Plain`).

Elsewhere tests have to go by the value.  Of outputs that are written alike, a test may pass one and not the other; then
what passed is read back as the other one and refused (`Validator.refused_when_read_back`).  That takes a layer around
an absence of its own kind: wherever outputs are read back as they were, any test goes by the value
(`Refinement.goesByValue_of_fits`), as in trees, which write the outputs of every node (`Registries.settle_again`).
-/
namespace Schemata

variable {α : Type}

/-! ## What is registered -/

/-- A schema as it is registered, whatever its outputs: a check, once it is said what following a reference means. -/
abbrev OpenCheck := (Reference → Check) → Check

/-- What references lead to. -/
abbrev Library := Reference → Except ReferenceFault OpenCheck

/-- **Following a reference into a library**, with a count of the hops that are left. -/
def Library.follow (library : Library) : Nat → Reference → Check
  | 0, r => fun _ path => Registries.refuse path (.tooDeep r.limit path)
  | hops + 1, r => fun v path =>
    if r.limit ≤ path.references then Registries.refuse path (.tooDeep r.limit path)
    else
      match library r with
      | .ok entry => entry (library.follow hops) v path.followed
      | .error fault => Registries.refuse path fault

/-- The trees that are registered, as a library. -/
def Registries.library (rs : Registries) : Library := fun r => (rs.resolve r).map fun s follow => s.check follow

/-- **Registries are followed as the libraries that they are.** -/
theorem Registries.follow_library (rs : Registries) : ∀ hops, rs.library.follow hops = rs.follow hops
  | 0 => rfl
  | hops + 1 => by
    funext r v path
    have hfollowed := follow_library rs hops
    cases hr : rs.resolve r with
    | ok s =>
      have hlibrary : rs.library r = .ok fun follow => s.check follow := by rw [library, hr]; rfl
      simp only [Library.follow, follow, hlibrary, hr, hfollowed]
    | error fault =>
      have hlibrary : rs.library r = .error fault := by rw [library, hr]; rfl
      simp only [Library.follow, follow, hlibrary, hr]

/-! ## Validators of the library -/

namespace Validator

/-- **Validators that only accept or refuse**: strings, numbers, booleans and enumerations, and arrays, layers, refinements
and unions of such. -/
inductive Plain : {α : Type} → Validator α → Prop where
  | string (rules : Rules TextRule) : Plain (.string rules)
  | number (rules : Rules NumericRule) : Plain (.number rules)
  | boolean (typeMessage : Option String) : Plain (.boolean typeMessage)
  | enumeration (options : List String) (message : Option String) : Plain (.enumeration options message)
  | array {α : Type} {item : Validator α} (rules : Rules LengthRule) : Plain item → Plain (.array rules item)
  | optional {α : Type} {inner : Validator α} : Plain inner → Plain inner.optional
  | nullable {α : Type} {inner : Validator α} : Plain inner → Plain inner.nullable
  | nullish {α : Type} {inner : Validator α} : Plain inner → Plain inner.nullish
  | refine {α : Type} {inner : Validator α} (r : Refinement α) : Plain inner → Plain (inner.refine r)
  | union {candidates : List Check} : (∀ c ∈ candidates, Plain (ofCheck c)) → Plain (ofCheck (.union candidates))
  | erased {α : Type} {inner : Validator α} : Plain inner → Plain inner.erased

/-- **Validators that repeat themselves**, where following a reference is `follow`: plain ones, and what is put together
of such, of objects whose names are told apart, of defaults that are given, and of references.  A test goes by the
value. -/
inductive Stable (follow : Reference → Check) : {α : Type} → Validator α → Prop where
  | plain {α : Type} {s : Validator α} : Plain s → Stable follow s
  | array {α : Type} {item : Validator α} (rules : Rules LengthRule) : Stable follow item →
      Stable follow (.array rules item)
  | object {shape : Shape Check} : shape.keys.Nodup → (∀ f ∈ shape.fields, Stable follow (ofCheck f.2)) →
      Stable follow (.object shape)
  | optional {α : Type} {inner : Validator α} : Stable follow inner → Stable follow inner.optional
  | nullable {α : Type} {inner : Validator α} : Stable follow inner → Stable follow inner.nullable
  | nullish {α : Type} {inner : Validator α} : Stable follow inner → Stable follow inner.nullish
  | default {α : Type} {inner : Validator α} (answer : Except String Value) (step : Step) : Stable follow inner →
      Stable follow (inner.default ⟨.given answer, step⟩)
  | refine {α : Type} {inner : Validator α} {r : Refinement α} : Stable follow inner → r.GoesByValue inner →
      Stable follow (inner.refine r)
  | reference (r : Reference) : Stable follow (ofCheck (follow r))
  | erased {α : Type} {inner : Validator α} : Stable follow inner → Stable follow inner.erased

theorem Plain.keeps {s : Validator α} (h : s.Plain) : s.Keeps := by
  induction h with
  | string rules => exact keeps_string rules
  | number rules => exact keeps_number rules
  | boolean typeMessage => exact keeps_boolean typeMessage
  | enumeration options message => exact keeps_enumeration options message
  | array rules _ ih => exact ih.array rules
  | optional _ ih => exact ih.on .optional
  | nullable _ ih => exact ih.on .nullable
  | nullish _ ih => exact ih.on .nullish
  | refine r _ ih => exact ih.refine r
  | union _ ih => exact .union ih
  | erased _ ih => exact ih.erased

theorem Stable.repeats {follow : Reference → Check} (hfollow : ∀ r, Check.Repeats (follow r)) {s : Validator α}
    (h : Stable follow s) : Check.Repeats s.check := by
  induction h with
  | plain h => exact h.keeps.repeats
  | array rules _ ih => exact ih.array rules
  | object hkeys _ ih => exact .object hkeys fun f hf => check_ofCheck f.2 ▸ ih f hf
  | optional _ ih => exact ih.on .optional
  | nullable _ ih => exact ih.on .nullable
  | nullish _ ih => exact ih.on .nullish
  | default answer step _ ih => exact ih.default answer step
  | refine _ hr ih => exact (ih.refine_iff _).2 (hr.passesAgain ih)
  | reference r => exact (check_ofCheck (follow r)).symm ▸ hfollow r
  | erased _ ih => rwa [check_erased]

end Validator

/-- **References into a library of what repeats itself repeat themselves**, by induction on the hops that are left. -/
theorem Library.repeats_follow {library : Library}
    (registered : ∀ hops r entry, library r = .ok entry →
      Validator.Stable (library.follow hops) (.ofCheck (entry (library.follow hops)))) :
    ∀ hops r, Check.Repeats (library.follow hops r)
  | 0, _ => .of_places fun _ => .inl ⟨_, fun _ => rfl⟩
  | hops + 1, r => .of_places fun path => by
    by_cases hlimit : r.limit ≤ path.references
    · exact .inl ⟨_, fun _ => if_pos hlimit⟩
    · cases hr : library r with
      | ok entry =>
        have hentry := (registered hops r entry hr).repeats (repeats_follow registered hops)
        rw [Validator.check_ofCheck] at hentry
        exact .inr ⟨_, path.followed, hentry, fun v => by simp only [follow, if_neg hlimit, hr]⟩
      | error fault => exact .inl ⟨_, fun v => by simp only [follow, if_neg hlimit, hr]; rfl⟩

namespace Validator

/-- A text or null, null standing in where nothing came, and null around that once more. -/
def nullTwice : Validator (Option (Option String)) := ((string .empty).nullable.default (.fixed .null)).nullable

/-- **A test that does not go by the value is not repeated.**  Undefined comes out as null inside, which is something, and
is read back as null outside, which is nothing. -/
theorem refused_when_read_back :
    let something : Refinement (Option (Option String)) := ⟨Option.isSome, refinementText, .plain⟩
    ¬ something.GoesByValue nullTwice ∧
      (((nullTwice.refine something).check .undefined .root).settle .fresh).result = .ok .null ∧
      (((nullTwice.refine something).check .null .root).settle .fresh).result =
        .error (.single ⟨.root, .custom, "Invalid value"⟩) := by
  intro something
  have hinside : nullTwice.Produces (some none) := ⟨.undefined, .root, Outcome.ends_settle _ .fresh⟩
  have houtside : nullTwice.Produces none := ⟨.null, .root, Outcome.ends_settle _ .fresh⟩
  exact ⟨fun h => Bool.noConfusion (h (some none) none hinside houtside rfl), rfl, rfl⟩

end Validator

/-! ## Trees -/

/-- A node that only accepts or refuses, if its parts do. -/
def Schema.Plain : Schema → Prop
  | .object _ => False
  | .default _ _ => False
  | .transform _ _ => False
  | .reference _ => False
  | .custom _ => False
  | _ => True

namespace Registries

variable {rs : Registries}

/-- A node that repeats itself, if its parts do. -/
def Stable (rs : Registries) : Schema → Prop
  | .object shape => shape.keys.Nodup
  | .union candidates => ∀ s ∈ candidates, ∀ t, rs.Reaches s t → t.Plain
  | .default _ supplier => ∃ answer, supplier.source = .given answer
  | .transform _ _ => False
  | .custom _ => False
  | _ => True

theorem plain_check (follow : Reference → Check) (s : Schema) (plain : ∀ t, rs.Reaches s t → t.Plain) :
    Validator.Plain (.ofCheck (s.check follow)) := by
  have own := plain s (.here s)
  have made : ∀ c ∈ s.children, Validator.Plain (.ofCheck (c.check follow)) := fun c hc =>
    plain_check follow c fun t ht => plain t (.child hc ht)
  cases s with
  | string rules => exact .erased (.string rules)
  | number rules => exact .erased (.number rules)
  | boolean typeMessage => exact .erased (.boolean typeMessage)
  | enumeration options message => exact .erased (.enumeration options message)
  | array rules item => exact .erased (.array rules (made item (List.mem_singleton.2 rfl)))
  | union candidates =>
    rw [Schema.check, Schema.checkAll_eq_map]
    exact .union (List.forall_mem_map.2 made)
  | optional inner => exact .erased (.optional (made inner (List.mem_singleton.2 rfl)))
  | nullable inner => exact .erased (.nullable (made inner (List.mem_singleton.2 rfl)))
  | nullish inner => exact .erased (.nullish (made inner (List.mem_singleton.2 rfl)))
  | refine inner r => exact .erased (.refine r (made inner (List.mem_singleton.2 rfl)))
  | _ => exact own.elim
termination_by sizeOf s
decreasing_by exact Schema.sizeOf_lt_of_mem_children hc

/-- **Trees write the outputs of every node**, so any test in them goes by the value. -/
theorem stable_check (follow : Reference → Check) (s : Schema) (stable : ∀ t, rs.Reaches s t → rs.Stable t) :
    Validator.Stable follow (.ofCheck (s.check follow)) := by
  have own := stable s (.here s)
  have made : ∀ c ∈ s.children, Validator.Stable follow (.ofCheck (c.check follow)) := fun c hc =>
    stable_check follow c fun t ht => stable t (.child hc ht)
  cases s with
  | string rules => exact .erased (.plain (.string rules))
  | number rules => exact .erased (.plain (.number rules))
  | boolean typeMessage => exact .erased (.plain (.boolean typeMessage))
  | enumeration options message => exact .erased (.plain (.enumeration options message))
  | array rules item => exact .erased (.array rules (made item (List.mem_singleton.2 rfl)))
  | object shape =>
    rw [Schema.check_object]
    exact .erased (.object (shape.keys_map _ ▸ own) (List.forall_mem_map.2 fun f hf => made f.2 (List.mem_map_of_mem hf)))
  | union candidates =>
    rw [Schema.check, Schema.checkAll_eq_map]
    exact .plain (.union (List.forall_mem_map.2 fun c hc => plain_check follow c (own c hc)))
  | optional inner => exact .erased (.optional (made inner (List.mem_singleton.2 rfl)))
  | nullable inner => exact .erased (.nullable (made inner (List.mem_singleton.2 rfl)))
  | nullish inner => exact .erased (.nullish (made inner (List.mem_singleton.2 rfl)))
  | default inner supplier =>
    obtain ⟨answer, hsource⟩ := own
    obtain ⟨source, step⟩ := supplier
    obtain rfl : source = .given answer := hsource
    exact .erased (.default answer step (made inner (List.mem_singleton.2 rfl)))
  | refine inner r =>
    exact .erased (.refine (made inner (List.mem_singleton.2 rfl)) (r.goesByValue_ofCheck _))
  | reference target => exact .reference target
  | _ => exact own.elim
termination_by sizeOf s
decreasing_by exact Schema.sizeOf_lt_of_mem_children hc

/-- **Trees under registries of such trees are settled after one pass**, whatever their tests are. -/
theorem settle_again (registered : ∀ r u, rs.resolve r = .ok u → ∀ t, rs.Reaches u t → rs.Stable t) {s : Schema}
    (stable : ∀ t, rs.Reaches s t → rs.Stable t) {v w : Value} {path : Path} {counters : Counters}
    (h : ((rs.check s v path).settle counters).result = .ok w) (counters' : Counters) :
    ((rs.check s w path).settle counters').result = .ok w := by
  have hlibrary : ∀ hops r entry, rs.library r = .ok entry →
      Validator.Stable (rs.library.follow hops) (.ofCheck (entry (rs.library.follow hops))) := by
    intro hops r entry hentry
    cases hr : rs.resolve r with
    | ok u =>
      rw [library, hr] at hentry
      exact Except.ok.inj hentry ▸ stable_check _ u (registered r u hr)
    | error fault =>
      rw [library, hr] at hentry
      cases hentry
  have hrepeats := (stable_check (rs.follow (rs.greatestLimit s - path.references)) s stable).repeats
    (rs.follow_library _ ▸ Library.repeats_follow hlibrary _)
  rw [Validator.check_ofCheck] at hrepeats
  exact hrepeats.settle h counters'

end Registries
end Schemata
