import Schemata.Proofs.Plans
/-!
# Towers — absence accepted in layers

A schema can be made to accept undefined, null or both, and what comes of that again.  Every layer has its own type of
outputs, around those of the layer inside it, and its own absent value that stands for an output of its own.  Once
outputs are written as values, a tower accepts what its ground accepts and the absent values that some layer adds; in
which order the layers came, and how often, is not seen any more (`Validator.tower_normal_form`).
-/
namespace Schemata

variable {α : Type}

/-- A layer that accepts an absence, or both. -/
inductive Modifier where
  | optional
  | nullable
  | nullish
  deriving DecidableEq

namespace Modifier

/-- The outputs of a layer, around those inside. -/
def Around : Modifier → Type → Type
  | .optional, α => Option α
  | .nullable, α => Option α
  | .nullish, α => Presence α

/-- Puts a layer on a validator. -/
def on : (m : Modifier) → Validator α → Validator (m.Around α)
  | .optional, s => s.optional
  | .nullable, s => s.nullable
  | .nullish, s => s.nullish

/-- Puts a layer on a tree. -/
def onSchema : Modifier → Schema → Schema
  | .optional, s => .optional s
  | .nullable, s => .nullable s
  | .nullish, s => .nullish s

/-- The values that a layer accepts by itself. -/
def admits : Modifier → Value → Bool
  | .optional, v => v.isUndefined
  | .nullable, v => v.isNull
  | .nullish, v => v.isUndefined || v.isNull

/-- The outputs of a tower, of which the first layer is the innermost. -/
def AroundAll : List Modifier → Type → Type
  | [], α => α
  | m :: rest, α => AroundAll rest (m.Around α)

/-- **The absences that layers add to a check**: undefined and null are accepted where some layer admits them, and all
else is left to the check. -/
def onCheck (ms : List Modifier) (c : Check) : Check := fun v path =>
  if v.isUndefined ∧ (.optional ∈ ms ∨ .nullish ∈ ms) then .success .undefined
  else if v.isNull ∧ (.nullable ∈ ms ∨ .nullish ∈ ms) then .success .null
  else c v path

end Modifier

/-- The layers in order, the first of them on the validator itself. -/
def Validator.tower : {α : Type} → Validator α → (ms : List Modifier) → Validator (Modifier.AroundAll ms α)
  | _, s, [] => s
  | _, s, m :: rest => (m.on s).tower rest

/-- The layers in order, the first of them on the tree itself. -/
def Schema.tower (s : Schema) (ms : List Modifier) : Schema := ms.foldl (fun t m => m.onSchema t) s

namespace Modifier

/-- **A layer accepts what it admits as it came**, and leaves all else to the validator inside. -/
theorem check_on (m : Modifier) (s : Validator α) (v : Value) (path : Path) :
    (m.on s).check v path = if m.admits v then .success v else s.check v path := by
  cases m with
  | optional =>
    refine (Validator.check_optional s v path).trans ?_
    cases v <;> rfl
  | nullable =>
    refine (Validator.check_nullable s v path).trans ?_
    cases v <;> rfl
  | nullish =>
    refine (Validator.check_nullish s v path).trans ?_
    cases v <;> rfl

/-- On a tree, a layer is the layer on the check of the tree. -/
theorem check_onSchema (rs : Registries) (m : Modifier) (s : Schema) :
    rs.check (m.onSchema s) = (m.on (.ofCheck (rs.check s))).check := by
  rw [rs.check_eq]
  cases m <;> rfl

theorem any_admits_iff (ms : List Modifier) (v : Value) :
    ms.any (·.admits v) = true ↔
      v.isUndefined ∧ (.optional ∈ ms ∨ .nullish ∈ ms) ∨ v.isNull ∧ (.nullable ∈ ms ∨ .nullish ∈ ms) := by
  rw [List.any_eq_true]
  constructor
  · rintro ⟨m, hm, hadmits⟩
    cases m with
    | optional => exact .inl ⟨hadmits, .inl hm⟩
    | nullable => exact .inr ⟨hadmits, .inl hm⟩
    | nullish => exact (Bool.or_eq_true_iff.1 hadmits).imp (⟨·, .inr hm⟩) (⟨·, .inr hm⟩)
  · rintro (⟨hv, hm | hm⟩ | ⟨hv, hm | hm⟩)
    · exact ⟨_, hm, hv⟩
    · exact ⟨_, hm, Bool.or_eq_true_iff.2 (.inl hv)⟩
    · exact ⟨_, hm, hv⟩
    · exact ⟨_, hm, Bool.or_eq_true_iff.2 (.inr hv)⟩

/-- What layers admit is accepted as it came. -/
theorem onCheck_eq (ms : List Modifier) (c : Check) (v : Value) (path : Path) :
    onCheck ms c v path = if ms.any (·.admits v) then .success v else c v path := by
  simp only [onCheck, any_admits_iff]
  cases v <;> simp [Value.isUndefined, Value.isNull]

/-- One more layer inside adds what it admits. -/
theorem onCheck_cons (m : Modifier) (ms : List Modifier) (s : Validator α) :
    onCheck (m :: ms) s.check = onCheck ms (m.on s).check := by
  funext v path
  rw [onCheck_eq, onCheck_eq, check_on, List.any_cons]
  cases m.admits v <;> cases ms.any (·.admits v) <;> rfl

/-- **Only what the layers admit matters**, not which they are, in which order or how often. -/
theorem onCheck_congr {ms ms' : List Modifier} (h : ∀ v : Value, ms.any (·.admits v) = ms'.any (·.admits v)) :
    onCheck ms = onCheck ms' := by
  funext c v path
  rw [onCheck_eq, onCheck_eq, h]

theorem onCheck_nil (c : Check) : onCheck [] c = c := by
  funext v path
  exact onCheck_eq [] c v path

end Modifier

open Modifier

/-- **A tower accepts what its ground does and what its layers add.** -/
theorem Validator.check_tower (ms : List Modifier) : ∀ {α : Type} (s : Validator α),
    (s.tower ms).check = onCheck ms s.check := by
  induction ms with
  | nil => exact fun s => (onCheck_nil s.check).symm
  | cons m rest ih => exact fun s => (ih (m.on s)).trans (onCheck_cons m rest s).symm

theorem Registries.check_tower (rs : Registries) (ms : List Modifier) : ∀ s : Schema,
    rs.check (s.tower ms) = onCheck ms (rs.check s) := by
  induction ms with
  | nil => exact fun s => (onCheck_nil (rs.check s)).symm
  | cons m rest ih =>
    intro s
    have hinner := onCheck_cons m rest (.ofCheck (rs.check s))
    rw [Validator.check_ofCheck, ← check_onSchema] at hinner
    exact (ih (m.onSchema s)).trans hinner.symm

namespace Validator

/-- Where undefined is accepted, no default is asked for. -/
theorem check_optional_default (s : Validator α) (supplier : Supplier) :
    (s.default supplier).optional.check = s.optional.check := by
  funext v path
  rw [check_optional, check_optional, check_default]
  cases v.isUndefined <;> rfl

theorem check_tower_congr (s : Validator α) {ms ms' : List Modifier}
    (h : ∀ v : Value, ms.any (·.admits v) = ms'.any (·.admits v)) : (s.tower ms).check = (s.tower ms').check := by
  rw [check_tower, check_tower, onCheck_congr h]

/-- **A layer that is there already changes nothing when it is put on again.** -/
theorem check_on_tower {m : Modifier} {ms : List Modifier} (hm : m ∈ ms) (s : Validator α) :
    (m.on (s.tower ms)).check = (s.tower ms).check := by
  funext v path
  rw [check_on, check_tower, onCheck_eq]
  cases hadmits : m.admits v with
  | false => rfl
  | true => rw [if_pos rfl, if_pos (List.any_eq_true.2 ⟨m, hm, hadmits⟩)]

/-- **Towers have a normal form.**  Undefined and null are accepted where some layer of the tower admits them, and all
else comes to what the ground makes of it, be that ready or pending.  So towers that admit the same are the same when
their outputs are written, such as the three ways to admit both absences; a layer put on again changes nothing; and a
default under an optional layer is never asked for.  Trees, which write the outputs between any two layers, are no
exception. -/
theorem tower_normal_form (s : Validator α) (ms : List Modifier) :
    (∀ v path, (s.tower ms).check v path =
      if v.isUndefined ∧ (.optional ∈ ms ∨ .nullish ∈ ms) then .success .undefined
      else if v.isNull ∧ (.nullable ∈ ms ∨ .nullish ∈ ms) then .success .null
      else s.check v path) ∧
    (∀ ms' : List Modifier, (∀ v : Value, ms.any (·.admits v) = ms'.any (·.admits v)) →
      (s.tower ms).check = (s.tower ms').check) ∧
    s.nullable.optional.check = s.nullish.check ∧ s.optional.nullable.check = s.nullish.check ∧
    (∀ m ∈ ms, (m.on (s.tower ms)).check = (s.tower ms).check) ∧
    (∀ supplier, (s.default supplier).optional.check = s.optional.check) ∧
    ∀ (rs : Registries) (t : Schema), rs.check (t.tower ms) = onCheck ms (rs.check t) := by
  have hnullableFirst : (s.tower [.nullable, .optional]).check = (s.tower [.nullish]).check :=
    s.check_tower_congr fun v => by cases v <;> rfl
  have hoptionalFirst : (s.tower [.optional, .nullable]).check = (s.tower [.nullish]).check :=
    s.check_tower_congr fun v => by cases v <;> rfl
  refine ⟨fun v path => ?_, fun ms' h => s.check_tower_congr h, hnullableFirst, hoptionalFirst,
    fun m hm => check_on_tower hm s, s.check_optional_default, fun rs t => rs.check_tower ms t⟩
  rw [check_tower]
  rfl

/-- Strings that a test passes which answers late. -/
def lateString : Validator String :=
  (Validator.string .empty).refine ⟨fun text => text ≠ "", refinementText, ⟨none, .deferred 2⟩⟩

/-- Null under undefined under null again admits both, as one layer does; all else waits for the test. -/
theorem tower_over_lateString :
    Modifier.nullable ∈ [Modifier.nullable, .optional, .nullable] ∧
      (Modifier.nullable.on (lateString.tower [.nullable, .optional, .nullable])).check =
        (lateString.tower [.nullable, .optional, .nullable]).check ∧
      (lateString.tower [.nullable, .optional, .nullable]).check = (lateString.tower [.nullish]).check ∧
      ((lateString.tower [.nullable, .optional, .nullable]).check .null .root = .success .null) ∧
      (lateString.tower [.nullable, .optional, .nullable]).check (.string "") .root =
        lateString.check (.string "") .root := by
  obtain ⟨hcheck, hsame, -, -, hagain, -, -⟩ := lateString.tower_normal_form [.nullable, .optional, .nullable]
  exact ⟨by decide, hagain _ (by decide), hsame [.nullish] fun v => by cases v <;> rfl, hcheck .null .root,
    hcheck (.string "") .root⟩

end Validator
end Schemata
