import Schemata.Proofs.Silence
/-!
# Acceptance — how a call comes to accept

A verdict that is an output came about in one of eight ways (`Registries.Accepts`): the value was taken as it is, or
another call was passed on; the items of an array were all accepted, or the fields of an object; a candidate of a union
was, or a supplied value; a test held of an output, or a mapping made another of it.  For a schema of the library there
is no other way, as long as nothing fails in silence (`Registries.accepts_of_ends`).  So what is true of outputs is shown
by cases on these.
-/
namespace Schemata
namespace Registries

variable {rs : Registries}

theorem calls_of_same {c d : Call} (h : rs.plan c = .same d) : rs.Calls c d := by
  refine calls_of_makes ?_
  rw [h]
  rfl

/-- **A call accepts with an output**, and how. -/
inductive Accepts (rs : Registries) : Call → Value → Prop where
  | itself {c : Call} : rs.plan c = .leaf (.ready (.ok c.value)) → Accepts rs c c.value
  | same {c d : Call} {w : Value} : rs.plan c = .same d → (rs.validate d).Ends (.ok w) → Accepts rs c w
  | items {rules : Rules LengthRule} {item : Schema} {items outputs : List Value} {path : Path} :
      rules.violations path items.length = [] →
      List.Forall₂ (fun d out => (rs.validate d).Ends (.ok out)) (items.mapIdx fun i u => ⟨item, u, path.index i⟩)
        outputs →
      Accepts rs ⟨.array rules item, .array items, path⟩ (.array outputs)
  | fields {shape : Shape Schema} {entries out : Entries Value} {outputs : List Value} {path : Path} :
      List.Forall₂ (fun d out => (rs.validate d).Ends (.ok out)) (shape.fields.map (fieldCall entries path)) outputs →
      (shape.map rs.check).assemble path entries (outputs.map .ok) = .ok out →
      Accepts rs ⟨.object shape, .object entries, path⟩ (.object out)
  | candidate {candidates : List Schema} {s : Schema} {v w : Value} {path : Path} : s ∈ candidates →
      (rs.validate ⟨s, v, path⟩).Ends (.ok w) → Accepts rs ⟨.union candidates, v, path⟩ w
  | supplied {inner : Schema} {supplier : Supplier} {v w : Value} {path : Path} : supplier.Gives v →
      (rs.validate ⟨inner, v, path⟩).Ends (.ok w) → Accepts rs ⟨.default inner supplier, .undefined, path⟩ w
  | refined {inner : Schema} {r : Refinement Value} {v w : Value} {path : Path} :
      (rs.validate ⟨inner, v, path⟩).Ends (.ok w) → r.test w = true → Accepts rs ⟨.refine inner r, v, path⟩ w
  | transformed {inner : Schema} {m : Mapping Value Value} {v u w : Value} {path : Path} :
      (rs.validate ⟨inner, v, path⟩).Ends (.ok u) → m.apply u = .ok w → Accepts rs ⟨.transform inner m, v, path⟩ w

/-- **An object settles to the output of its fields**, where none of them fails in silence. -/
theorem forall₂_of_ends_object {shape : Shape Schema} {entries : Entries Value} {w : Value} {path : Path}
    (loud : ∀ f ∈ shape.fields, ∀ t, rs.Reaches f.2 t → t.Loud)
    (h : (rs.validate ⟨.object shape, .object entries, path⟩).Ends (.ok w)) :
    ∃ outputs out, w = .object out ∧
      List.Forall₂ (fun d out => (rs.validate d).Ends (.ok out)) (shape.fields.map (fieldCall entries path)) outputs ∧
      (shape.map rs.check).assemble path entries (outputs.map .ok) = .ok out := by
  rw [validate, check_eq, answer] at h
  obtain ⟨out, hout, rfl⟩ := (Validator.ends_check_ok _ _ path w).1 h
  have hloud : ∀ f ∈ (shape.map rs.check).fields, ∀ v path x, (f.2 v path).Ends x → ¬ x.Silent :=
    List.forall_mem_map.2 fun f hf v path x => not_silent_of_ends ⟨f.2, v, path⟩ (loud f hf)
  obtain ⟨_, outputs, hv, hassemble, hall⟩ := Validator.outputs_of_ends_object hloud hout
  obtain rfl := Value.object.inj hv
  exact ⟨outputs, out, rfl, List.forall₂_map_left_iff.2 (List.forall₂_map_left_iff.1 hall), hassemble⟩

/-- **A call accepts in no other way.** -/
theorem accepts_of_ends {c : Call} (loud : ∀ t, rs.Reaches c.schema t → t.Loud)
    (library : ∀ check, c.schema ≠ .custom check) {w : Value} (h : (rs.validate c).Ends (.ok w)) : rs.Accepts c w := by
  have hsettles := settles_of_ends h
  have leaf : ∀ o, rs.plan c = .leaf o → rs.Accepts c w := by
    intro o hplan
    have hcontributes := rs.plan_contributes c
    rw [hplan] at hsettles hcontributes
    rcases hcontributes with ⟨check, hschema, -⟩ | rfl | ⟨i, -, rfl⟩
    · exact absurd hschema (library check)
    · obtain rfl := Except.ok.inj ((Outcome.ends_ready _ _).1 hsettles)
      exact .itself hplan
    · cases (Outcome.ends_ready _ _).1 hsettles
  have same : ∀ d, rs.plan c = .same d → rs.Accepts c w := by
    intro d hplan
    rw [hplan] at hsettles
    exact .same hplan hsettles
  obtain ⟨s, v, path⟩ := c
  cases s with
  | array rules item =>
    cases v with
    | array items =>
      obtain ⟨_, outputs, hv, rfl, hrules, hall⟩ :=
        forall₂_of_ends_array (fun t ht => loud t (.child (List.mem_singleton.2 rfl) ht)) h
      obtain rfl := Value.array.inj hv
      exact .items hrules hall
    | _ => exact leaf _ rfl
  | object shape =>
    cases v with
    | object entries =>
      obtain ⟨outputs, out, rfl, hall, hassemble⟩ :=
        forall₂_of_ends_object (fun f hf t ht => loud t (.child (List.mem_map_of_mem hf) ht)) h
      exact .fields hall hassemble
    | _ => exact leaf _ rfl
  | union candidates =>
    cases candidates with
    | nil => exact leaf _ rfl
    | cons s rest =>
      rcases hsettles with ⟨out, hw, t, ht, hout⟩ | ⟨_, _, -, -, hw⟩
      · exact .candidate ht hout
      · cases hw
  | optional t =>
    cases hv : v.isUndefined with
    | true => exact leaf _ (if_pos hv)
    | false => exact same _ (if_neg (ne_true_of_eq_false hv))
  | nullable t =>
    cases hv : v.isNull with
    | true => exact leaf _ (if_pos hv)
    | false => exact same _ (if_neg (ne_true_of_eq_false hv))
  | nullish t =>
    cases v with
    | undefined => exact leaf _ rfl
    | null => exact leaf _ rfl
    | _ => exact same _ rfl
  | default t supplier =>
    cases hv : v.isUndefined with
    | true =>
      obtain rfl := Value.eq_undefined hv
      rcases hsettles with ⟨u, hu, hw⟩ | ⟨reason, hw⟩
      · exact .supplied hu hw
      · cases hw
    | false => exact same _ (if_neg (ne_true_of_eq_false hv))
  | refine t r =>
    rcases hsettles with ⟨u, hu, hw⟩ | ⟨_, -, hw⟩
    · unfold Refinement.judge at hw
      split at hw
      · obtain rfl := Except.ok.inj hw
        exact .refined hu ‹_›
      · cases hw
    · cases hw
  | transform t m =>
    rcases hsettles with ⟨u, hu, hw⟩ | ⟨_, -, hw⟩
    · unfold Mapping.judge at hw
      cases hm : m.apply u with
      | ok out =>
        rw [hm] at hw
        obtain rfl := Except.ok.inj hw
        exact .transformed hu hm
      | error reason =>
        rw [hm] at hw
        cases hw
    · cases hw
  | reference r =>
    by_cases hlimit : r.limit ≤ path.references
    · exact leaf _ (if_pos hlimit)
    · cases hr : rs.resolve r with
      | ok t => exact same ⟨t, v, path.followed⟩ (by simp only [plan, if_neg hlimit, hr])
      | error fault => exact leaf (refuse path fault) (by simp only [plan, if_neg hlimit, hr])
  | custom check => exact absurd rfl (library check)
  | _ => exact leaf _ rfl

end Registries
end Schemata
