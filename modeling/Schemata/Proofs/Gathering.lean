import Mathlib.Data.List.Nodup
import Schemata.Proofs.Starts
import Schemata.Proofs.Traces
import Schemata.Validator.Record
/-!
# Gathering — what arrays and objects make of their children

An array asks every item and an object every declared field, and both decide when all have answered: by the issues that
are there, not by which of the answers are reports.  A report may be empty.  So a child that fails in silence does not
keep its array or object from being accepted, and it is the one thing that is missing from the output without having
been accepted (`Validator.success_whole_iff_none_silent`).
-/
namespace Schemata

variable {α : Type}

namespace Verdict

/-- A failure that reports nothing. -/
def Silent (verdict : Verdict α) : Prop := verdict = .error .empty

theorem issues_eq_nil_iff (verdict : Verdict α) : verdict.issues = [] ↔ (∃ a, verdict = .ok a) ∨ verdict.Silent := by
  cases verdict with
  | ok a => simp [issues, Silent]
  | error r =>
    obtain ⟨is⟩ := r
    simp [issues, Silent, Report.empty]

theorem forall_ok_iff {verdicts : List (Verdict α)} (h : ∀ x ∈ verdicts, x.issues = []) :
    (∀ x ∈ verdicts, ∃ a, x = .ok a) ↔ ∀ x ∈ verdicts, ¬ x.Silent := by
  constructor
  · intro hok x hx hsilent
    obtain ⟨a, rfl⟩ := hok x hx
    cases hsilent
  · intro hnone x hx
    exact ((issues_eq_nil_iff x).1 (h x hx)).resolve_right (hnone x hx)

theorem eq_map_ok_iff : ∀ verdicts : List (Verdict α),
    verdicts = (verdicts.filterMap output?).map .ok ↔ ∀ x ∈ verdicts, ∃ a, x = .ok a
  | [] => by simp
  | .ok a :: rest => by simpa [output?] using eq_map_ok_iff rest
  | .error r :: rest => by
    constructor
    · intro h
      have hmem : Except.error r ∈ ((Except.error r :: rest).filterMap output?).map Except.ok := h ▸ List.mem_cons_self
      obtain ⟨a, -, ha⟩ := List.mem_map.1 hmem
      cases ha
    · intro h
      obtain ⟨a, ha⟩ := h _ List.mem_cons_self
      cases ha

theorem length_filterMap_output?_iff (verdicts : List (Verdict α)) :
    (verdicts.filterMap output?).length = verdicts.length ↔ ∀ x ∈ verdicts, ∃ a, x = .ok a := by
  rw [List.filterMap_length_eq_length]
  refine forall₂_congr fun x _ => ?_
  cases x <;> simp [output?]

theorem allIssues_eq_nil_iff (before : List Issue) (verdicts : List (Verdict α)) :
    allIssues before verdicts = [] ↔ before = [] ∧ ∀ x ∈ verdicts, x.issues = [] := by
  simp [allIssues]

/-- **Items are accepted exactly when no issue is there.** -/
theorem gather_eq_ok_iff (before : List Issue) (verdicts : List (Verdict α)) (outputs : List α) :
    gather before verdicts = .ok outputs ↔
      before = [] ∧ (∀ x ∈ verdicts, x.issues = []) ∧ outputs = verdicts.filterMap output? := by
  rw [← and_assoc, ← allIssues_eq_nil_iff]
  unfold gather
  cases allIssues before verdicts with
  | nil => simp [eq_comm]
  | cons i is => simp

theorem gather_map_ok {before : List Issue} (h : before = []) (outputs : List α) :
    gather before (outputs.map .ok) = .ok outputs := by
  refine (gather_eq_ok_iff _ _ _).2 ⟨h, ?_, ?_⟩
  · simp [issues]
  · simp [List.filterMap_map, Function.comp_def, output?]

end Verdict

namespace Shape

variable {s : Shape Check} {path : Path} {entries : Entries Value} {verdicts : List (Verdict Value)}

/-- **Fields are accepted exactly when no issue is there.** -/
theorem assemble_eq_ok_iff (out : Entries Value) :
    s.assemble path entries verdicts = .ok out ↔
      s.unknownIssues path entries = [] ∧ (∀ x ∈ verdicts, x.issues = []) ∧
        out = (s.keys.zip verdicts).filterMap outputField? ++ s.carriedOver entries := by
  have hnil : verdicts.flatMap Verdict.issues ++ s.unknownIssues path entries = [] ↔
      s.unknownIssues path entries = [] ∧ ∀ x ∈ verdicts, x.issues = [] := by
    rw [List.append_eq_nil_iff, List.flatMap_eq_nil_iff, and_comm]
  rw [← and_assoc, ← hnil]
  unfold assemble
  cases verdicts.flatMap Verdict.issues ++ s.unknownIssues path entries with
  | nil => simp [eq_comm]
  | cons i is => simp

theorem not_mem_keys_of_mem_carriedOver {e : String × Value} (h : e ∈ s.carriedOver entries) : e.1 ∉ s.keys := by
  unfold carriedOver at h
  split at h
  · have hkeep := (List.mem_filter.1 h).2
    exact of_decide_eq_true hkeep
  · cases h

theorem outputField?_eq_some_iff {name key : String} {x : Verdict Value} {v : Value} :
    outputField? (name, x) = some (key, v) ↔ name = key ∧ x = .ok v ∧ v ≠ .undefined := by
  cases x with
  | error r => simp [outputField?]
  | ok w =>
    constructor
    · intro h
      cases w <;> cases h <;> exact ⟨rfl, rfl, Value.noConfusion⟩
    · rintro ⟨rfl, hw, hv⟩
      obtain rfl := Except.ok.inj hw
      cases w <;> first | rfl | exact absurd rfl hv

/-- **Under a declared name stands the output of its field**, unless that is undefined or there is none. -/
theorem mem_keys_output_iff (hnodup : s.keys.Nodup) (hlen : s.keys.length = verdicts.length) {name : String}
    {x : Verdict Value} (hx : (name, x) ∈ s.keys.zip verdicts) :
    name ∈ Entries.keys ((s.keys.zip verdicts).filterMap outputField? ++ s.carriedOver entries) ↔
      ∃ v, x = .ok v ∧ v ≠ .undefined := by
  constructor
  · intro h
    obtain ⟨⟨key, v⟩, hmem, rfl⟩ := List.mem_map.1 h
    rcases List.mem_append.1 hmem with hmem | hmem
    · obtain ⟨⟨key', x'⟩, hx', hsome⟩ := List.mem_filterMap.1 hmem
      obtain ⟨rfl, rfl, hv⟩ := outputField?_eq_some_iff.1 hsome
      have hfst : ((s.keys.zip verdicts).map Prod.fst).Nodup := by rwa [List.map_fst_zip (Nat.le_of_eq hlen)]
      have heq := List.inj_on_of_nodup_map hfst hx hx' rfl
      exact ⟨v, congrArg Prod.snd heq, hv⟩
    · exact absurd (List.of_mem_zip hx).1 (not_mem_keys_of_mem_carriedOver hmem)
  · rintro ⟨v, rfl, hv⟩
    have hmem := List.mem_filterMap.2 ⟨_, hx, outputField?_eq_some_iff.2 ⟨rfl, rfl, hv⟩⟩
    exact List.mem_map.2 ⟨_, List.mem_append_left _ hmem, rfl⟩

end Shape

/-! ## Written outputs -/

theorem Outcome.ends_mapSuccess {β : Type} (f : α → β) (o : Outcome (Verdict α)) (b : β) :
    (o.mapSuccess f).Ends (.ok b) ↔ ∃ a, o.Ends (.ok a) ∧ b = f a := by
  rw [mapSuccess, ends_map]
  constructor
  · rintro ⟨verdict, hends, hb⟩
    cases verdict with
    | ok a => exact ⟨a, hends, Except.ok.inj hb⟩
    | error r => cases hb
  · rintro ⟨a, hends, rfl⟩
    exact ⟨.ok a, hends, rfl⟩

namespace Validator

theorem ends_check (s : Validator α) (v : Value) (path : Path) (x : Verdict Value) :
    (s.check v path).Ends x ↔ ∃ y, (s.run v path).Ends y ∧ x = y.map s.toValue := Outcome.ends_map _ _ _

theorem ends_check_ok (s : Validator α) (v : Value) (path : Path) (w : Value) :
    (s.check v path).Ends (.ok w) ↔ ∃ a, (s.run v path).Ends (.ok a) ∧ w = s.toValue a := Outcome.ends_mapSuccess _ _ _

end Validator

/-! ## Arrays and objects -/

/-- What the items of an array settle to, each at its position. -/
def Validator.itemVerdicts (item : Validator α) (items : List Value) (path : Path) (counters : Counters) :
    List (Verdict α) :=
  ((Outcome.join (items.mapIdx fun i v => item.run v (path.index i))).settle counters).result

/-- What the declared fields settle to on an object, in the order of declaration. -/
def Shape.fieldVerdicts (s : Shape Check) (entries : Entries Value) (path : Path) (counters : Counters) :
    List (Verdict Value) :=
  ((Outcome.join (s.fieldOutcomes path entries)).settle counters).result

theorem Validator.ends_itemVerdicts (item : Validator α) (items : List Value) (path : Path) (counters : Counters) :
    List.Forall₂ Outcome.Ends (items.mapIdx fun i v => item.run v (path.index i))
      (item.itemVerdicts items path counters) :=
  Outcome.ends_join (Outcome.ends_settle _ counters)

theorem Shape.ends_fieldVerdicts (s : Shape Check) (entries : Entries Value) (path : Path) (counters : Counters) :
    List.Forall₂ Outcome.Ends (s.fieldOutcomes path entries) (s.fieldVerdicts entries path counters) :=
  Outcome.ends_join (Outcome.ends_settle _ counters)

namespace Validator

theorem settle_array (rules : Rules LengthRule) (item : Validator α) (items : List Value) (path : Path)
    (counters : Counters) :
    (((Validator.array rules item).run (.array items) path).settle counters).result =
      Verdict.gather (rules.violations path items.length) (item.itemVerdicts items path counters) := by
  simp only [Validator.array, Outcome.settle_map]
  rfl

theorem settle_object (s : Shape Check) (entries : Entries Value) (path : Path) (counters : Counters) :
    (((Validator.object s).run (.object entries) path).settle counters).result =
      s.assemble path entries (s.fieldVerdicts entries path counters) := by
  simp only [Validator.object, Outcome.settle_map]
  rfl

/-- **When an array is accepted**, and with what output. -/
theorem array_accepts_iff (rules : Rules LengthRule) (item : Validator α) (v : Value) (path : Path)
    (counters : Counters) (outputs : List α) :
    (((Validator.array rules item).run v path).settle counters).result = .ok outputs ↔
      ∃ items, v = .array items ∧ rules.violations path items.length = [] ∧
        (∀ x ∈ item.itemVerdicts items path counters, x.issues = []) ∧
        outputs = (item.itemVerdicts items path counters).filterMap Verdict.output? := by
  constructor
  · intro h
    cases v with
    | array items =>
      rw [settle_array, Verdict.gather_eq_ok_iff] at h
      exact ⟨items, rfl, h⟩
    | _ => cases h
  · rintro ⟨items, rfl, h⟩
    rw [settle_array, Verdict.gather_eq_ok_iff]
    exact h

/-- **When an object is accepted**, and with what output. -/
theorem object_accepts_iff (s : Shape Check) (v : Value) (path : Path) (counters : Counters) (out : Entries Value) :
    (((Validator.object s).run v path).settle counters).result = .ok out ↔
      ∃ entries, v = .object entries ∧ s.unknownIssues path entries = [] ∧
        (∀ x ∈ s.fieldVerdicts entries path counters, x.issues = []) ∧
        out = (s.keys.zip (s.fieldVerdicts entries path counters)).filterMap outputField? ++ s.carriedOver entries := by
  constructor
  · intro h
    cases v with
    | object entries =>
      rw [settle_object, Shape.assemble_eq_ok_iff] at h
      exact ⟨entries, rfl, h⟩
    | _ => cases h
  · rintro ⟨entries, rfl, h⟩
    rw [settle_object, Shape.assemble_eq_ok_iff]
    exact h

/-- **An array that is accepted is whole exactly when no item failed in silence.** -/
theorem array_whole_iff {rules : Rules LengthRule} {item : Validator α} {items : List Value} {path : Path}
    {counters : Counters} {outputs : List α}
    (h : (((Validator.array rules item).run (.array items) path).settle counters).result = .ok outputs) :
    (item.itemVerdicts items path counters = outputs.map .ok ↔
        ∀ x ∈ item.itemVerdicts items path counters, ¬ x.Silent) ∧
      (outputs.length = items.length ↔ ∀ x ∈ item.itemVerdicts items path counters, ¬ x.Silent) := by
  obtain ⟨_, heq, -, hissues, rfl⟩ := (array_accepts_iff rules item _ path counters outputs).1 h
  obtain rfl := Value.array.inj heq
  have hlen := (item.ends_itemVerdicts items path counters).length_eq
  rw [List.length_mapIdx] at hlen
  rw [← Verdict.forall_ok_iff hissues]
  refine ⟨Verdict.eq_map_ok_iff _, ?_⟩
  rw [hlen]
  exact Verdict.length_filterMap_output?_iff _

/-- **What is missing from an object that is accepted** had an undefined output or failed in silence. -/
theorem object_missing_iff {s : Shape Check} {entries : Entries Value} {path : Path} {counters : Counters}
    {out : Entries Value} (hnodup : s.keys.Nodup)
    (h : (((Validator.object s).run (.object entries) path).settle counters).result = .ok out) {name : String}
    {x : Verdict Value} (hx : (name, x) ∈ s.keys.zip (s.fieldVerdicts entries path counters)) :
    name ∉ out.keys ↔ x = .ok .undefined ∨ x.Silent := by
  obtain ⟨_, heq, -, hissues, rfl⟩ := (object_accepts_iff s _ path counters out).1 h
  obtain rfl := Value.object.inj heq
  have hlen : s.keys.length = (s.fieldVerdicts entries path counters).length := by
    rw [← (s.ends_fieldVerdicts entries path counters).length_eq]
    simp [Shape.keys, Entries.keys, Shape.fieldOutcomes]
  rw [Shape.mem_keys_output_iff hnodup hlen hx]
  rcases (Verdict.issues_eq_nil_iff x).1 (hissues x (List.of_mem_zip hx).2) with ⟨v, rfl⟩ | hsilent
  · by_cases hv : v = .undefined
    · simp [hv]
    · simp [hv, Verdict.Silent]
  · constructor
    · exact fun _ => .inr hsilent
    · rintro - ⟨v, rfl, -⟩
      cases hsilent

/-- **Nothing is lost but what fails in silence.**  An array is accepted when its length breaks no rule and no item has an
issue, and an object when it has no unknown key to report and no field has an issue.  Every child that was asked has then
accepted, every item stands at its position and whatever field is missing had an undefined output, exactly when none of
the children failed with an empty report. -/
theorem success_whole_iff_none_silent (path : Path) (counters : Counters) :
    (∀ (α : Type) (rules : Rules LengthRule) (item : Validator α) (v : Value) (outputs : List α),
      (((Validator.array rules item).run v path).settle counters).result = .ok outputs ↔
        ∃ items, v = .array items ∧ rules.violations path items.length = [] ∧
          (∀ x ∈ item.itemVerdicts items path counters, x.issues = []) ∧
          outputs = (item.itemVerdicts items path counters).filterMap Verdict.output?) ∧
    (∀ (α : Type) (rules : Rules LengthRule) (item : Validator α) (items : List Value) (outputs : List α),
      (((Validator.array rules item).run (.array items) path).settle counters).result = .ok outputs →
        let verdicts := item.itemVerdicts items path counters
        List.Forall₂ Outcome.Ends (items.mapIdx fun i v => item.run v (path.index i)) verdicts ∧
          (verdicts = outputs.map .ok ↔ ∀ x ∈ verdicts, ¬ x.Silent) ∧
          (outputs.length = items.length ↔ ∀ x ∈ verdicts, ¬ x.Silent)) ∧
    (∀ (s : Shape Check) (v : Value) (out : Entries Value),
      (((Validator.object s).run v path).settle counters).result = .ok out ↔
        ∃ entries, v = .object entries ∧ s.unknownIssues path entries = [] ∧
          (∀ x ∈ s.fieldVerdicts entries path counters, x.issues = []) ∧
          out = (s.keys.zip (s.fieldVerdicts entries path counters)).filterMap outputField? ++
            s.carriedOver entries) ∧
    (∀ (s : Shape Check) (entries out : Entries Value),
      (((Validator.object s).run (.object entries) path).settle counters).result = .ok out →
        let verdicts := s.fieldVerdicts entries path counters
        List.Forall₂ Outcome.Ends (s.fieldOutcomes path entries) verdicts ∧
          ((∀ x ∈ verdicts, ∃ a, x = .ok a) ↔ ∀ x ∈ verdicts, ¬ x.Silent) ∧
          (s.keys.Nodup → ∀ name x, (name, x) ∈ s.keys.zip verdicts →
            (name ∉ out.keys ↔ x = .ok .undefined ∨ x.Silent))) := by
  refine ⟨fun α rules item v outputs => array_accepts_iff rules item v path counters outputs,
    fun α rules item items outputs h => ⟨item.ends_itemVerdicts items path counters, array_whole_iff h⟩,
    fun s v out => object_accepts_iff s v path counters out, fun s entries out h => ?_⟩
  obtain ⟨_, heq, -, hissues, -⟩ := (object_accepts_iff s _ path counters out).1 h
  obtain rfl := Value.object.inj heq
  exact ⟨s.ends_fieldVerdicts entries path counters, Verdict.forall_ok_iff hissues,
    fun hnodup name x hx => object_missing_iff hnodup h hx⟩

/-- Where an accepted array is shorter than the value, some item failed in silence. -/
theorem silent_item_of_empty_output :
    let item : Validator Value := .ofCheck fun _ _ => .failure .empty
    (((Validator.array .empty item).run (.array [.null, .null]) .root).settle .fresh).result = .ok [] ∧
      ∃ x ∈ item.itemVerdicts [.null, .null] .root .fresh, x.Silent := by
  intro item
  have h : (((Validator.array .empty item).run (.array [.null, .null]) .root).settle .fresh).result = .ok [] := rfl
  obtain ⟨-, -, hlength⟩ := (success_whole_iff_none_silent .root .fresh).2.1 Value .empty item _ _ h
  have hlost : ¬ ∀ x ∈ item.itemVerdicts [.null, .null] .root .fresh, ¬ x.Silent := fun hnone => by
    cases hlength.2 hnone
  exact ⟨h, by simpa using hlost⟩

/-- An array of two items that both fail in silence is accepted, and is empty. -/
theorem silent_items_are_lost :
    ¬ ∀ (item : Validator Value) (items outputs : List Value),
      (((Validator.array .empty item).run (.array items) .root).settle .fresh).result = .ok outputs →
        (∀ x ∈ item.itemVerdicts items .root .fresh, ∃ a, x = .ok a) ∧ outputs.length = items.length := by
  intro h
  have hlost := (h (.ofCheck fun _ _ => .failure .empty) [.null, .null] [] rfl).2
  cases hlost

end Validator
end Schemata
