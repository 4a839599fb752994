import Schemata.Proofs.Erasure
import Schemata.Proofs.Members
import Schemata.Proofs.Silence
/-!
# Repeating — checks that hand out again what they handed out

What validation hands out may differ from what came in: an object drops, reorders and fills in entries, and a default
stands in for what is missing.  A check repeats itself if it is settled after one pass (`Check.Repeats`).  A whole does
so if its parts do, and since a part shows in its written outputs alone, so does the reason: one lemma for each way of
putting checks together.

Only a refinement sees more than what is written: it tests outputs.  It repeats if it goes by the value
(`Refinement.GoesByValue`).  And where what came in is handed out, and is sure to be (`Validator.Keeps`), the second pass
is the first, so that there any test is repeated, and any choice among such validators too.
-/
namespace Schemata

variable {α β : Type}

/-- **A check that repeats itself**: what it hands out, it is certain to hand out once more when it is asked about that at
the same place.  It does not fail in silence, and an undefined output comes of an undefined value only. -/
structure Check.Repeats (c : Check) : Prop where
  loud : ∀ v path x, (c v path).Ends x → ¬ x.Silent
  undefined : ∀ v path, (c v path).Ends (.ok .undefined) → v = .undefined
  again : ∀ v path w, (c v path).Ends (.ok w) → (c w path).Certain (.ok w)

/-- **A validator that only accepts or refuses**: it hands out what came in, and if it can do so it is certain to. -/
structure Validator.Keeps (s : Validator α) : Prop where
  loud : ∀ v path x, (s.run v path).Ends x → ¬ x.Silent
  same : ∀ v path a, (s.run v path).Ends (.ok a) → s.toValue a = v
  certain : ∀ v path a, (s.run v path).Ends (.ok a) → (s.run v path).Certain (.ok a)

/-- What has passed the test passes it when it is read back. -/
def Refinement.PassesAgain (r : Refinement α) (s : Validator α) : Prop :=
  ∀ v path a b, (s.run v path).Ends (.ok a) → r.test a = true → (s.run (s.toValue a) path).Ends (.ok b) →
    r.test b = true

/-- **A test that goes by the value**: it does not tell outputs apart that are written as the same value. -/
def Refinement.GoesByValue (r : Refinement α) (s : Validator α) : Prop :=
  ∀ a b, s.Produces a → s.Produces b → s.toValue a = s.toValue b → r.test a = r.test b

theorem Refinement.goesByValue_ofCheck (r : Refinement Value) (c : Check) : r.GoesByValue (.ofCheck c) :=
  fun _ _ _ _ => congrArg r.test

/-! ## Written outputs -/

theorem Outcome.Certain.mapSuccess {o : Outcome (Verdict α)} {a : α} (f : α → β) (h : o.Certain (.ok a)) :
    (o.mapSuccess f).Certain (.ok (f a)) := h.bind (certain_ready _)

namespace Validator

variable {s : Validator α} {v : Value} {path : Path}

/-- A check is loud where the validator that it writes the outputs of is. -/
theorem loud_check (h : ∀ x, (s.run v path).Ends x → ¬ x.Silent) : ∀ x, (s.check v path).Ends x → ¬ x.Silent := by
  intro x hx
  obtain ⟨y, hy, rfl⟩ := (s.ends_check v path x).1 hx
  exact Verdict.not_silent_map (h y hy)

theorem loud_run (h : ∀ x, (s.check v path).Ends x → ¬ x.Silent) : ∀ x, (s.run v path).Ends x → ¬ x.Silent := by
  intro x hx hsilent
  exact h _ ((s.ends_check v path _).2 ⟨x, hx, rfl⟩) (congrArg (Verdict.map s.toValue) hsilent)

/-- **What is handed out as it came in is handed out again**, since the second pass is the first. -/
theorem Keeps.repeats (h : s.Keeps) : Check.Repeats s.check where
  loud v path := loud_check (h.loud v path)
  undefined v path hends := by
    obtain ⟨a, ha, hundefined⟩ := (s.ends_check_ok v path _).1 hends
    exact (h.same v path a ha).symm.trans hundefined.symm
  again v path w hends := by
    obtain ⟨a, ha, rfl⟩ := (s.ends_check_ok v path w).1 hends
    have hcertain := (h.certain v path a ha).mapSuccess s.toValue
    rwa [h.same v path a ha] at hcertain ⊢

end Validator

theorem Check.Repeats.settle {c : Check} (h : Check.Repeats c) {v w : Value} {path : Path} {counters : Counters}
    (hw : ((c v path).settle counters).result = .ok w) (counters' : Counters) :
    ((c w path).settle counters').result = .ok w := by
  have hends : (c v path).Ends (.ok w) := hw ▸ Outcome.ends_settle _ counters
  exact (h.again v path w hends).settle counters'

/-- A check that refuses at a place with one issue, or goes by another check and another place, repeats itself if those
others do. -/
theorem Check.Repeats.of_places {c : Check} (h : ∀ path, (∃ i, ∀ v, c v path = .failure (.single i)) ∨
    ∃ d q, Check.Repeats d ∧ ∀ v, c v path = d v q) : Check.Repeats c where
  loud v path x hx := by
    rcases h path with ⟨i, hc⟩ | ⟨d, q, hd, hc⟩ <;> rw [hc] at hx
    · obtain rfl := (Outcome.ends_ready _ _).1 hx
      exact Verdict.not_silent_single i
    · exact hd.loud v q x hx
  undefined v path hends := by
    rcases h path with ⟨i, hc⟩ | ⟨d, q, hd, hc⟩ <;> rw [hc] at hends
    · cases (Outcome.ends_ready _ _).1 hends
    · exact hd.undefined v q hends
  again v path w hends := by
    rcases h path with ⟨i, hc⟩ | ⟨d, q, hd, hc⟩ <;> rw [hc] at hends ⊢
    · cases (Outcome.ends_ready _ _).1 hends
    · exact hd.again v q w hends

/-! ## Leaves -/

namespace Validator

/-- A validator that accepts what came, or refuses it with one issue, both at once. -/
theorem keeps_of_ready {s : Validator α} (h : ∀ v path, (∃ a, s.run v path = .success a ∧ s.toValue a = v) ∨
    ∃ i, s.run v path = .failure (.single i)) : s.Keeps where
  loud v path x hx := by
    rcases h v path with ⟨a, hrun, -⟩ | ⟨i, hrun⟩ <;> rw [hrun] at hx <;> obtain rfl := (Outcome.ends_ready _ _).1 hx
    · nofun
    · exact Verdict.not_silent_single i
  same v path a ha := by
    rcases h v path with ⟨b, hrun, hb⟩ | ⟨i, hrun⟩ <;> rw [hrun] at ha
    · rwa [Except.ok.inj ((Outcome.ends_ready _ _).1 ha)]
    · cases (Outcome.ends_ready _ _).1 ha
  certain v path a ha := by
    rcases h v path with ⟨b, hrun, -⟩ | ⟨i, hrun⟩ <;> rw [hrun] at ha ⊢ <;> rw [(Outcome.ends_ready _ _).1 ha] <;>
      exact Outcome.certain_ready _

theorem keeps_string (rules : Rules TextRule) : (string rules).Keeps := keeps_of_ready fun v path => by
  cases v with
  | string text =>
    rcases rules.firstViolation_cases path text with h | ⟨i, -, h⟩
    · exact .inl ⟨text, congrArg Outcome.ready h, rfl⟩
    · exact .inr ⟨i, congrArg Outcome.ready h⟩
  | _ => exact .inr ⟨_, rfl⟩

theorem keeps_number (rules : Rules NumericRule) : (number rules).Keeps := keeps_of_ready fun v path => by
  cases v with
  | number x =>
    by_cases hx : x.isNan = true
    · exact .inr ⟨_, if_pos hx⟩
    · rcases rules.firstViolation_cases path x with h | ⟨i, -, h⟩
      · exact .inl ⟨x, (if_neg hx).trans (congrArg Outcome.ready h), rfl⟩
      · exact .inr ⟨i, (if_neg hx).trans (congrArg Outcome.ready h)⟩
  | _ => exact .inr ⟨_, rfl⟩

theorem keeps_boolean (typeMessage : Option String) : (boolean typeMessage).Keeps := keeps_of_ready fun v path => by
  cases v with
  | bool b => exact .inl ⟨b, rfl, rfl⟩
  | _ => exact .inr ⟨_, rfl⟩

theorem keeps_enumeration (options : List String) (message : Option String) :
    (enumeration options message).Keeps := keeps_of_ready fun v path => by
  cases v with
  | string text =>
    by_cases h : text ∈ options
    · exact .inl ⟨text, if_pos h, rfl⟩
    · exact .inr ⟨_, if_neg h⟩
  | _ => exact .inr ⟨_, rfl⟩

end Validator

/-! ## Layers -/

/-- **A layer hands out an absence that it admits**, and else an output of the validator inside. -/
theorem Modifier.run_on (m : Modifier) (s : Validator α) (v : Value) (path : Path) :
    (∃ a, (m.on s).run v path = .success a ∧ (m.on s).toValue a = v) ∨
      ∃ wrap, (m.on s).run v path = (s.run v path).mapSuccess wrap ∧ ∀ a, (m.on s).toValue (wrap a) = s.toValue a := by
  cases m with
  | optional =>
    cases v with
    | undefined => exact .inl ⟨none, rfl, rfl⟩
    | _ => exact .inr ⟨some, rfl, fun _ => rfl⟩
  | nullable =>
    cases v with
    | null => exact .inl ⟨none, rfl, rfl⟩
    | _ => exact .inr ⟨some, rfl, fun _ => rfl⟩
  | nullish =>
    cases v with
    | undefined => exact .inl ⟨.undefined, rfl, rfl⟩
    | null => exact .inl ⟨.null, rfl, rfl⟩
    | _ => exact .inr ⟨.present, rfl, fun _ => rfl⟩

theorem Validator.Keeps.on {s : Validator α} (h : s.Keeps) (m : Modifier) : (m.on s).Keeps where
  loud v path x hx := by
    rcases m.run_on s v path with ⟨a, hrun, -⟩ | ⟨wrap, hrun, -⟩ <;> rw [hrun] at hx
    · obtain rfl := (Outcome.ends_ready _ _).1 hx
      nofun
    · obtain ⟨y, hy, rfl⟩ := (Outcome.ends_map _ _ _).1 hx
      exact Verdict.not_silent_map (h.loud v path y hy)
  same v path x hx := by
    rcases m.run_on s v path with ⟨a, hrun, ha⟩ | ⟨wrap, hrun, hwrap⟩ <;> rw [hrun] at hx
    · rwa [Except.ok.inj ((Outcome.ends_ready _ _).1 hx)]
    · obtain ⟨a, ha, rfl⟩ := (Outcome.ends_mapSuccess _ _ _).1 hx
      rw [hwrap, h.same v path a ha]
  certain v path x hx := by
    rcases m.run_on s v path with ⟨a, hrun, -⟩ | ⟨wrap, hrun, -⟩ <;> rw [hrun] at hx ⊢
    · rw [(Outcome.ends_ready _ _).1 hx]
      exact Outcome.certain_ready _
    · obtain ⟨a, ha, rfl⟩ := (Outcome.ends_mapSuccess _ _ _).1 hx
      exact (h.certain v path a ha).mapSuccess wrap

/-- **A layer on what repeats itself repeats itself**: what the layer admits is handed out as it came. -/
theorem Check.Repeats.on {s : Validator α} (h : Check.Repeats s.check) (m : Modifier) :
    Check.Repeats (m.on s).check where
  loud v path x hx := by
    rw [m.check_on] at hx
    split at hx
    · obtain rfl := (Outcome.ends_ready _ _).1 hx
      nofun
    · exact h.loud v path x hx
  undefined v path hends := by
    rw [m.check_on] at hends
    split at hends
    · exact (Except.ok.inj ((Outcome.ends_ready _ _).1 hends)).symm
    · exact h.undefined v path hends
  again v path w hends := by
    rw [m.check_on] at hends ⊢
    by_cases hw : m.admits w = true
    · rw [if_pos hw]
      exact Outcome.certain_ready _
    · rw [if_neg hw]
      split at hends
      · obtain rfl := Except.ok.inj ((Outcome.ends_ready _ _).1 hends)
        contradiction
      · exact h.again v path w hends

/-! ## Items -/

namespace Validator

variable {rules : Rules LengthRule} {item : Validator α}

theorem certain_array {items : List Value} {path : Path} {as : List α}
    (hrules : rules.violations path items.length = [])
    (h : List.Forall₂ (fun o a => o.Certain (.ok a)) (items.mapIdx fun i u => item.run u (path.index i)) as) :
    ((array rules item).run (.array items) path).Certain (.ok as) := by
  have hcertain := (Outcome.Certain.join (List.forall₂_map_right_iff.2 h)).bind (f := fun verdicts =>
    .ready (Verdict.gather (rules.violations path items.length) verdicts)) (Outcome.certain_ready _)
  rwa [Verdict.gather_map_ok hrules] at hcertain

theorem loud_array (rules : Rules LengthRule) (item : Validator α) (v : Value) (path : Path)
    (x : Verdict (List α)) (h : ((array rules item).run v path).Ends x) : ¬ x.Silent := by
  cases v with
  | array items =>
    obtain ⟨verdicts, -, rfl⟩ := (Outcome.ends_map _ _ _).1 h
    exact Verdict.not_silent_gather _ verdicts
  | _ =>
    obtain rfl := (Outcome.ends_ready _ _).1 h
    exact Verdict.not_silent_single _

theorem Keeps.array (h : item.Keeps) (rules : Rules LengthRule) : (Validator.array rules item).Keeps where
  loud := loud_array rules item
  same v path as has := by
    obtain ⟨items, rfl, -, hall⟩ := outputs_of_ends_array h.loud has
    obtain ⟨hlen, hsame⟩ := forall₂_mapIdx_left_iff.1 hall
    refine congrArg Value.array (List.ext_getElem (by rw [List.length_map, hlen]) fun i ha hi => ?_)
    rw [List.getElem_map, h.same _ _ _ (hsame i hi (hlen ▸ hi))]
  certain v path as has := by
    obtain ⟨items, rfl, hrules, hall⟩ := outputs_of_ends_array h.loud has
    obtain ⟨hlen, hends⟩ := forall₂_mapIdx_left_iff.1 hall
    exact certain_array hrules (forall₂_mapIdx_left_iff.2 ⟨hlen, fun i hi ha => h.certain _ _ _ (hends i hi ha)⟩)

end Validator

/-- **An array of what repeats itself repeats itself**: there are as many outputs as items, each at its place. -/
theorem Check.Repeats.array {item : Validator α} (h : Check.Repeats item.check) (rules : Rules LengthRule) :
    Check.Repeats (Validator.array rules item).check := by
  have herased : (Validator.array rules item).check = (Validator.array rules (.ofCheck item.check)).check :=
    Validator.check_array_congr (Validator.check_ofCheck _).symm rules
  rw [herased]
  refine ⟨fun v path => Validator.loud_check (Validator.loud_array rules _ v path), fun v path hends => ?_,
    fun v path w hends => ?_⟩
  · obtain ⟨_, -, hw⟩ := (Validator.ends_check_ok _ v path _).1 hends
    cases hw
  · obtain ⟨outputs, houtputs, rfl⟩ := (Validator.ends_check_ok _ v path w).1 hends
    obtain ⟨items, rfl, hrules, hall⟩ := Validator.outputs_of_ends_array h.loud houtputs
    obtain ⟨hlen, hends⟩ := forall₂_mapIdx_left_iff.1 hall
    have hwritten : (Validator.array rules (.ofCheck item.check)).toValue outputs = .array outputs :=
      congrArg Value.array (List.map_id outputs)
    have hagain : ((Validator.array rules (.ofCheck item.check)).run (.array outputs) path).Certain (.ok outputs) :=
      Validator.certain_array (hlen ▸ hrules)
        (forall₂_mapIdx_left_iff.2 ⟨rfl, fun i hi _ => h.again _ _ _ (hends i (hlen ▸ hi) hi)⟩)
    rw [← hwritten] at hagain
    exact hagain.mapSuccess _

/-! ## Fields -/

namespace Validator

variable {shape : Shape Check}

theorem loud_object (shape : Shape Check) (v : Value) (path : Path) (x : Verdict (Entries Value))
    (h : ((object shape).run v path).Ends x) : ¬ x.Silent := by
  cases v with
  | object entries =>
    obtain ⟨verdicts, -, rfl⟩ := (Outcome.ends_map _ _ _).1 h
    exact shape.not_silent_assemble path entries verdicts
  | _ =>
    obtain rfl := (Outcome.ends_ready _ _).1 h
    exact Verdict.not_silent_single _

theorem certain_object {entries out : Entries Value} {outputs : List Value} {path : Path}
    (hassemble : shape.assemble path entries (outputs.map .ok) = .ok out)
    (h : List.Forall₂ (fun f o => (f.2 ((Entries.get? entries f.1).getD .undefined) (path.field f.1)).Certain (.ok o))
      shape.fields outputs) : ((object shape).run (.object entries) path).Certain (.ok out) := by
  have hfields : List.Forall₂ Outcome.Certain (shape.fieldOutcomes path entries) (outputs.map .ok) :=
    List.forall₂_map_left_iff.2 (List.forall₂_map_right_iff.2 h)
  have hcertain := (Outcome.Certain.join hfields).bind (f := fun verdicts => .ready (shape.assemble path entries verdicts))
    (Outcome.certain_ready _)
  rwa [hassemble] at hcertain

end Validator

/-- **An object of what repeats itself repeats itself.**  A declared name is looked up in the output as what its field
came to; what is undefined is left out, and read back as missing. -/
theorem Check.Repeats.object {shape : Shape Check} (hkeys : shape.keys.Nodup)
    (h : ∀ f ∈ shape.fields, Check.Repeats f.2) : Check.Repeats (Validator.object shape).check := by
  refine ⟨fun v path => Validator.loud_check (Validator.loud_object shape v path), fun v path hends => ?_,
    fun v path w hends => ?_⟩
  · obtain ⟨_, -, hw⟩ := (Validator.ends_check_ok _ v path _).1 hends
    cases hw
  · obtain ⟨out, hout, rfl⟩ := (Validator.ends_check_ok _ v path w).1 hends
    obtain ⟨entries, outputs, rfl, hassemble, hall⟩ :=
      Validator.outputs_of_ends_object (fun f hf => (h f hf).loud) hout
    obtain ⟨-, hissues, hwritten⟩ := (Shape.assemble_eq_ok_iff out).1 hassemble
    have hlen : shape.keys.length = (outputs.map (Except.ok : Value → Verdict Value)).length := by
      rw [Shape.keys, Entries.keys, List.length_map, List.length_map]
      exact hall.length_eq
    have hagain := shape.assemble_output path entries hissues
    rw [← hwritten] at hagain
    refine (Validator.certain_object hagain (List.forall₂_iff_zip.2 ⟨hall.length_eq, fun {f o} hmem => ?_⟩)).mapSuccess _
    have hzip : (f.1, (Except.ok o : Verdict Value)) ∈ shape.keys.zip (outputs.map .ok) := by
      rw [Shape.keys, Entries.keys, List.zip_map]
      exact List.mem_map_of_mem hmem
    have hlookup : (Entries.get? out f.1).getD .undefined = o := by
      rw [hwritten]
      exact Shape.getD_get?_output hkeys hlen hzip
    rw [hlookup]
    exact (h f (List.of_mem_zip hmem).1).again _ _ _ ((List.forall₂_iff_zip.1 hall).2 hmem)

/-! ## Defaults -/

/-- With a default that is given, what comes is what comes of the value, or of the given one in place of an undefined. -/
theorem Validator.ends_check_default {s : Validator α} {answer : Except String Value} {step : Step} {v : Value}
    {path : Path} {x : Verdict Value} (h : ((s.default ⟨.given answer, step⟩).check v path).Ends x) :
    (∃ u, (s.check u path).Ends x ∧ (u = v ∧ v.isUndefined = false ∨ v = .undefined ∧ answer = .ok u)) ∨
      ∃ i, x = .error (.single i) := by
  rw [check_default] at h
  cases hv : v.isUndefined with
  | false =>
    rw [if_neg (ne_true_of_eq_false hv)] at h
    exact .inl ⟨v, h, .inl ⟨rfl, rfl⟩⟩
  | true =>
    rw [if_pos hv] at h
    obtain ⟨given, hgiven, hx⟩ := (Outcome.ends_bind _ _ _).1 h
    obtain rfl := (Step.ends_call step answer given).1 hgiven
    cases given with
    | ok u => exact .inl ⟨u, hx, .inr ⟨Value.eq_undefined hv, rfl⟩⟩
    | error reason => exact .inr ⟨_, (Outcome.ends_ready _ _).1 hx⟩

/-- **A default that is given repeats itself**: it stands in for an undefined value only, and for no other is an output
undefined. -/
theorem Check.Repeats.default {s : Validator α} (h : Check.Repeats s.check) (answer : Except String Value)
    (step : Step) : Check.Repeats (s.default ⟨.given answer, step⟩).check := by
  have hundefined : ∀ v path, ((s.default ⟨.given answer, step⟩).check v path).Ends (.ok .undefined) →
      v = .undefined ∧ answer = .ok .undefined ∧ (s.check .undefined path).Ends (.ok .undefined) := by
    intro v path hends
    rcases Validator.ends_check_default hends with ⟨u, hu, hfrom⟩ | ⟨i, hi⟩
    · obtain rfl := h.undefined u path hu
      rcases hfrom with ⟨rfl, hv⟩ | ⟨hv, hanswer⟩
      · cases hv
      · exact ⟨hv, hanswer, hu⟩
    · cases hi
  refine ⟨fun v path x hx => ?_, fun v path hends => (hundefined v path hends).1, fun v path w hends => ?_⟩
  · rcases Validator.ends_check_default hx with ⟨u, hu, -⟩ | ⟨i, rfl⟩
    · exact h.loud u path x hu
    · exact Verdict.not_silent_single i
  · rw [Validator.check_default]
    cases hw : w.isUndefined with
    | true =>
      obtain rfl := Value.eq_undefined hw
      obtain ⟨-, rfl, hinner⟩ := hundefined v path hends
      exact (step.certain_call _).bind (h.again _ _ _ hinner)
    | false =>
      rcases Validator.ends_check_default hends with ⟨u, hu, -⟩ | ⟨i, hi⟩
      · exact h.again u path w hu
      · cases hi

/-! ## Refinements -/

namespace Validator

variable {s : Validator α} {r : Refinement α} {v : Value} {path : Path}

/-- A refinement hands out what passed the test, or one issue of its own, or the report from inside. -/
theorem ends_refine {x : Verdict α} : ((s.refine r).run v path).Ends x ↔
    (∃ a, (s.run v path).Ends (.ok a) ∧ x = if r.test a then .ok a else .error (.custom path r.message)) ∨
      ∃ report, (s.run v path).Ends (.error report) ∧ x = .error report := by
  refine (Outcome.ends_bind _ _ _).trans ⟨?_, ?_⟩
  · rintro ⟨y, hy, hx⟩
    cases y with
    | ok a =>
      obtain ⟨passed, hpassed, rfl⟩ := (Outcome.ends_map _ _ _).1 hx
      obtain rfl := (Step.ends_call _ _ _).1 hpassed
      exact .inl ⟨a, hy, rfl⟩
    | error report => exact .inr ⟨report, hy, (Outcome.ends_ready _ _).1 hx⟩
  · rintro (⟨a, ha, rfl⟩ | ⟨report, hreport, rfl⟩)
    · exact ⟨.ok a, ha, (Outcome.ends_map _ _ _).2 ⟨r.test a, (Step.ends_call _ _ _).2 rfl, rfl⟩⟩
    · exact ⟨.error report, hreport, (Outcome.ends_ready _ _).2 rfl⟩

theorem ends_refine_ok {a : α} : ((s.refine r).run v path).Ends (.ok a) ↔
    (s.run v path).Ends (.ok a) ∧ r.test a = true := by
  rw [ends_refine]
  constructor
  · rintro (⟨b, hb, hab⟩ | ⟨_, -, h⟩)
    · split at hab
      · obtain rfl := Except.ok.inj hab
        exact ⟨hb, ‹_›⟩
      · cases hab
    · cases h
  · rintro ⟨ha, htest⟩
    exact .inl ⟨a, ha, (if_pos htest).symm⟩

/-- A refinement is loud where the validator inside is. -/
theorem loud_refine (loud : ∀ x, (s.run v path).Ends x → ¬ x.Silent) (x : Verdict α)
    (hx : ((s.refine r).run v path).Ends x) : ¬ x.Silent := by
  rcases ends_refine.1 hx with ⟨a, -, rfl⟩ | ⟨report, hreport, rfl⟩
  · split
    · nofun
    · exact Verdict.not_silent_single _
  · exact loud _ hreport

/-- Where every output that can come passes, the refinement comes to what comes inside. -/
theorem certain_refine {w : Value} (hcertain : (s.check w path).Certain (.ok w))
    (hpasses : ∀ b, (s.run w path).Ends (.ok b) → r.test b = true) : ((s.refine r).check w path).Certain (.ok w) := by
  intro x hx
  obtain ⟨y, hy, rfl⟩ := ((s.refine r).ends_check w path x).1 hx
  refine hcertain _ ((s.ends_check w path _).2 ⟨y, ?_, rfl⟩)
  rcases ends_refine.1 hy with ⟨b, hb, rfl⟩ | ⟨report, hreport, rfl⟩
  · rwa [if_pos (hpasses b hb)]
  · exact hreport

/-- **What came in is handed out by any refinement too**: the test is asked about the same output again. -/
theorem Keeps.refine (h : s.Keeps) (r : Refinement α) : (s.refine r).Keeps where
  loud v path := loud_refine (h.loud v path)
  same v path a ha := h.same v path a (ends_refine_ok.1 ha).1
  certain v path a ha x hx := by
    obtain ⟨hends, htest⟩ := ends_refine_ok.1 ha
    have hinner := h.certain v path a hends
    rcases ends_refine.1 hx with ⟨b, hb, rfl⟩ | ⟨report, hreport, -⟩
    · obtain rfl := Except.ok.inj (hinner _ hb)
      exact if_pos htest
    · cases hinner _ hreport

end Validator

/-- **A refinement of what repeats itself does so exactly if what has passed the test passes it when it is read back.** -/
theorem Check.Repeats.refine_iff {s : Validator α} (h : Check.Repeats s.check) (r : Refinement α) :
    Check.Repeats (s.refine r).check ↔ r.PassesAgain s := by
  constructor
  · intro hr v path a b ha htest hb
    have hends := ((s.refine r).ends_check_ok v path _).2 ⟨a, Validator.ends_refine_ok.2 ⟨ha, htest⟩, rfl⟩
    have hcertain := hr.again v path _ hends
    by_contra hnot
    have hrefused : ((s.refine r).run (s.toValue a) path).Ends (.error (.custom path r.message)) :=
      Validator.ends_refine.2 (.inl ⟨b, hb, (if_neg hnot).symm⟩)
    cases hcertain _ (((s.refine r).ends_check _ path _).2 ⟨_, hrefused, rfl⟩)
  · intro hr
    refine ⟨fun v path => Validator.loud_check (Validator.loud_refine (Validator.loud_run (h.loud v path))),
      fun v path hends => ?_, fun v path w hends => ?_⟩
    · obtain ⟨a, ha, hw⟩ := ((s.refine r).ends_check_ok v path _).1 hends
      exact h.undefined v path ((s.ends_check_ok v path _).2 ⟨a, (Validator.ends_refine_ok.1 ha).1, hw⟩)
    · obtain ⟨a, ha, rfl⟩ := ((s.refine r).ends_check_ok v path w).1 hends
      obtain ⟨ha, htest⟩ := Validator.ends_refine_ok.1 ha
      exact Validator.certain_refine (h.again v path _ ((s.ends_check_ok v path _).2 ⟨a, ha, rfl⟩)) fun b =>
        hr v path a b ha htest

/-- A test that goes by the value is passed again, since what is read back is written as it was. -/
theorem Refinement.GoesByValue.passesAgain {s : Validator α} {r : Refinement α} (hr : r.GoesByValue s)
    (h : Check.Repeats s.check) : r.PassesAgain s := by
  intro v path a b ha htest hb
  have hcertain := h.again v path (s.toValue a) ((s.ends_check_ok v path _).2 ⟨a, ha, rfl⟩)
  have hwritten : s.toValue b = s.toValue a :=
    Except.ok.inj (hcertain _ ((s.ends_check_ok _ path _).2 ⟨b, hb, rfl⟩))
  rw [hr b a ⟨_, path, hb⟩ ⟨v, path, ha⟩ hwritten]
  exact htest

/-! ## Choices -/

theorem Validator.Keeps.erased {s : Validator α} (h : s.Keeps) : s.erased.Keeps where
  loud v path := Validator.loud_check (h.loud v path)
  same v path w hends := by
    obtain ⟨a, ha, rfl⟩ := (s.ends_check_ok v path w).1 hends
    exact h.same v path a ha
  certain v path w hends := by
    obtain ⟨a, ha, rfl⟩ := (s.ends_check_ok v path w).1 hends
    exact (h.certain v path a ha).mapSuccess s.toValue

/-- A union hands out what a candidate does, or it has one issue of its own, or the issues of all candidates. -/
theorem Check.ends_union {candidates : List Check} {v : Value} {path : Path} {x : Verdict Value}
    (h : (Check.union candidates v path).Ends x) : (∃ out, x = .ok out ∧ ∃ c ∈ candidates, (c v path).Ends x) ∨
      (candidates = [] ∧ ∃ i, x = .error (.single i)) ∨
        ∃ reports issues, candidates ≠ [] ∧ List.Forall₂ (fun c r => (c v path).Ends (.error r)) candidates reports ∧
          issues.Perm (reports.flatMap Report.issues) ∧ x = .error ⟨issues⟩ := by
  cases candidates with
  | nil => exact .inr (.inl ⟨rfl, _, (Outcome.ends_ready _ _).1 h⟩)
  | cons c rest =>
    rcases ends_scanCandidates _ h with ⟨out, hx, ⟨_, hw, -⟩ | hfrom⟩ | ⟨waited, reports, issues, hw, hr, hperm, hx⟩
    · cases hw
    · exact .inl ⟨out, hx, hfrom⟩
    · obtain rfl := List.forall₂_nil_left_iff.1 hw
      exact .inr (.inr ⟨reports, issues, List.cons_ne_nil _ _, hr, hperm, hx⟩)

/-- **A choice among validators that hand out what came in does so too**: one that accepted cannot refuse. -/
theorem Validator.Keeps.union {candidates : List Check} (h : ∀ c ∈ candidates, (ofCheck c).Keeps) :
    (ofCheck (.union candidates)).Keeps where
  loud v path x hx := by
    rcases Check.ends_union hx with ⟨out, rfl, -⟩ | ⟨-, i, rfl⟩ | ⟨reports, issues, hne, hreports, hperm, rfl⟩
    · nofun
    · exact Verdict.not_silent_single i
    · obtain ⟨c, rest, rfl⟩ := List.exists_cons_of_ne_nil hne
      obtain ⟨r, _, hr, -, rfl⟩ := List.forall₂_cons_left_iff.1 hreports
      exact Verdict.not_silent_of_perm hperm List.mem_cons_self ((h c List.mem_cons_self).loud v path _ hr)
  same v path w hw := by
    rcases Check.ends_union hw with ⟨_, -, c, hc, hends⟩ | ⟨-, i, hi⟩ | ⟨_, _, -, -, -, hx⟩
    · exact (h c hc).same v path w hends
    · cases hi
    · cases hx
  certain v path w hw x hx := by
    rcases Check.ends_union hw with ⟨_, -, c, hc, hends⟩ | ⟨-, i, hi⟩ | ⟨_, _, -, -, -, hx⟩
    · rcases Check.ends_union hx with ⟨out, rfl, d, hd, hout⟩ | ⟨rfl, -⟩ | ⟨reports, _, -, hreports, -, -⟩
      · exact congrArg Except.ok (((h d hd).same v path out hout).trans ((h c hc).same v path w hends).symm)
      · cases hc
      · obtain ⟨r, -, hr⟩ := exists_mem_of_forall₂ hreports hc
        cases (h c hc).certain v path w hends _ hr
    · cases hi
    · cases hx

end Schemata
