import Mathlib.Logic.Relation
import Schemata.Proofs.Endings
import Schemata.Proofs.Gathering
/-!
# Origins — which call raises an issue

Issues are put together from many calls, but each is raised by one: a call raises issues at its own place, with a code
that fits its value, and a strict object one for each key that it does not declare (`Call.Raises`).  What else a call
reports it has from the calls that it makes.  `Plan.Contributes` says so of the six ways, and by induction on the calls
every issue of a validation was raised by a call that it leads to (`Registries.exists_raises_of_ends`).
-/
namespace Schemata

variable {κ σ : Type}

/-- **What a code says of the value it is reported for**; an undeclared key is not reported for the value itself. -/
def Code.Fits (v : Value) : Code → Prop
  | .invalidArray => v.array? = none
  | .invalidObject => v.object? = none
  | .tooSmall => v.string? ≠ none ∨ v.number? ≠ none ∨ v.array? ≠ none
  | .tooBig => v.string? ≠ none ∨ v.number? ≠ none ∨ v.array? ≠ none
  | .unrecognizedKeys => False
  | _ => True

/-- **An issue that a call raises itself**: at its own place and fitting its value, or for a key of its object that its
shape does not declare. -/
inductive Call.Raises : Call → Issue → Prop where
  | here {c : Call} {i : Issue} : i.path = c.path → i.code.Fits c.value → Raises c i
  | undeclared {shape : Shape Schema} {entries : Entries Value} {path : Path} {key : String} :
      shape.unknownKeys = .strict → key ∈ Entries.keys entries → key ∉ shape.keys →
      Raises ⟨.object shape, .object entries, path⟩ (unrecognizedKey path key)

/-! ## Rules -/

namespace Rules

variable [Rule κ σ] {rules : Rules κ} {path : Path} {x : σ}

theorem mem_violations {i : Issue} (h : i ∈ rules.violations path x) :
    i.path = path ∧ ∃ rule : κ, i.code = Rule.code rule := by
  obtain ⟨c, -, hc⟩ := List.mem_filterMap.1 h
  unfold issue? at hc
  split at hc
  · cases hc
  · obtain rfl := Option.some.inj hc
    exact ⟨rfl, c.rule, rfl⟩

theorem firstViolation_cases (rules : Rules κ) (path : Path) (x : σ) :
    rules.firstViolation path x = .ok x ∨
      ∃ i ∈ rules.violations path x, rules.firstViolation path x = .error (.single i) := by
  unfold firstViolation
  cases rules.violations path x with
  | nil => exact .inl rfl
  | cons i is => exact .inr ⟨i, List.mem_cons_self, rfl⟩

end Rules

theorem TextRule.code_fits (rule : TextRule) (s : String) : (TextRule.code rule).Fits (.string s) := by
  cases rule <;> simp [TextRule.code, Code.Fits, Value.string?]

theorem NumericRule.code_fits (rule : NumericRule) (x : Number) : (NumericRule.code rule).Fits (.number x) := by
  cases rule <;> simp [NumericRule.code, Code.Fits, Value.number?]

theorem LengthRule.code_fits (rule : LengthRule) (items : List Value) :
    (LengthRule.code rule).Fits (.array items) := by
  cases rule <;> simp [LengthRule.code, Code.Fits, Value.array?]

theorem Shape.mem_unknownIssues {s : Shape Check} {path : Path} {entries : Entries Value} {i : Issue}
    (h : i ∈ s.unknownIssues path entries) :
    s.unknownKeys = .strict ∧ ∃ key ∈ Entries.keys entries, key ∉ s.keys ∧ i = unrecognizedKey path key := by
  unfold unknownIssues at h
  split at h
  · rename_i hstrict
    obtain ⟨key, hkey, rfl⟩ := List.mem_map.1 h
    obtain ⟨e, he, rfl⟩ := List.mem_map.1 hkey
    obtain ⟨hmem, hkeep⟩ := List.mem_filter.1 he
    exact ⟨hstrict, e.1, List.mem_map_of_mem hmem, of_decide_eq_true hkeep, rfl⟩
  · cases h

/-! ## Verdicts on several are never silent -/

theorem Verdict.not_silent_single {α : Type} (i : Issue) : ¬ Verdict.Silent (.error (.single i) : Verdict α) := by
  intro h
  cases h

theorem Verdict.not_silent_map {α β : Type} {f : α → β} {x : Verdict α} (h : ¬ x.Silent) : ¬ (x.map f).Silent := by
  cases x with
  | ok a => nofun
  | error r => exact fun hs => h (congrArg Except.error (Except.error.inj hs))

theorem Verdict.not_silent_gather {α : Type} (before : List Issue) (verdicts : List (Verdict α)) :
    ¬ (gather before verdicts).Silent := by
  unfold gather
  cases allIssues before verdicts <;> nofun

theorem Shape.not_silent_assemble (s : Shape Check) (path : Path) (entries : Entries Value)
    (verdicts : List (Verdict Value)) : ¬ (s.assemble path entries verdicts).Silent := by
  unfold assemble
  cases verdicts.flatMap Verdict.issues ++ s.unknownIssues path entries <;> nofun

/-! ## What a way adds -/

/-- **What the way of a call adds to the calls on it.**  Without a call the value itself is the output, or one issue is
raised, unless a user's check decides; a call that is passed on is about the same value; what gathers verdicts adds
issues that are raised, and never refuses in silence; a step leaves an issue that is raised, or an output. -/
def Plan.Contributes (c : Call) : Plan → Prop
  | .leaf o =>
    (∃ check, c.schema = .custom check ∧ o = check c.value c.path) ∨ o = .ready (.ok c.value) ∨
      ∃ i, c.Raises i ∧ o = .ready (.error (.single i))
  | .same d => d.value = c.value
  | .every _ decide => ∃ own : List Issue, (∀ i ∈ own, c.Raises i) ∧ ∀ verdicts, ¬ (decide verdicts).Silent ∧
      ∀ i ∈ (decide verdicts).issues, i ∈ own ∨ ∃ x ∈ verdicts, i ∈ x.issues
  | .first candidates v _ => candidates ≠ [] ∧ v = c.value
  | .supplied _ path _ => path = c.path ∧ c.value = .undefined
  | .effect d _ judge => d.value = c.value ∧
      ∀ v, (∃ out, judge v = .ok out) ∨ ∃ i, c.Raises i ∧ judge v = .error (.single i)

namespace Registries

variable {rs : Registries}

/-- **Every call contributes as its way does.** -/
theorem plan_contributes (rs : Registries) (c : Call) : (rs.plan c).Contributes c := by
  obtain ⟨s, v, path⟩ := c
  have accepts : (Plan.leaf (.ready (.ok v))).Contributes ⟨s, v, path⟩ := .inr (.inl rfl)
  have refuses : ∀ (code : Code) (message : String), code.Fits v →
      (Plan.leaf (.failure (.single ⟨path, code, message⟩))).Contributes ⟨s, v, path⟩ := fun code message h =>
    .inr (.inr ⟨_, .here rfl h, rfl⟩)
  cases s with
  | string rules =>
    cases v with
    | string x =>
      simp only [plan, Validator.check, Validator.string]
      rcases rules.firstViolation_cases path x with h | ⟨i, hi, h⟩
      · rw [h]
        exact accepts
      · obtain ⟨hpath, rule, hcode⟩ := Rules.mem_violations hi
        rw [h]
        exact .inr (.inr ⟨i, .here hpath (hcode ▸ rule.code_fits x), rfl⟩)
    | _ => exact refuses _ _ trivial
  | number rules =>
    cases v with
    | number x =>
      simp only [plan, Validator.check, Validator.number]
      split
      · exact refuses _ _ trivial
      · rcases rules.firstViolation_cases path x with h | ⟨i, hi, h⟩
        · rw [h]
          exact accepts
        · obtain ⟨hpath, rule, hcode⟩ := Rules.mem_violations hi
          rw [h]
          exact .inr (.inr ⟨i, .here hpath (hcode ▸ rule.code_fits x), rfl⟩)
    | _ => exact refuses _ _ trivial
  | boolean typeMessage =>
    cases v with
    | bool b => exact accepts
    | _ => exact refuses _ _ trivial
  | enumeration options message =>
    cases v with
    | string x =>
      simp only [plan, Validator.check, Validator.enumeration]
      split
      · exact accepts
      · exact refuses _ _ trivial
    | _ => exact refuses _ _ trivial
  | array rules item =>
    cases v with
    | array items =>
      refine ⟨rules.violations path items.length, fun i hi => ?_, fun verdicts => ⟨?_, fun i hi => ?_⟩⟩
      · obtain ⟨hpath, rule, hcode⟩ := Rules.mem_violations hi
        exact .here hpath (hcode ▸ rule.code_fits items)
      · exact Verdict.not_silent_map (Verdict.not_silent_gather _ _)
      · rw [Verdict.issues_map, Verdict.issues_gather] at hi
        exact (List.mem_append.1 hi).imp_right List.mem_flatMap.1
    | _ => exact refuses _ _ rfl
  | object shape =>
    cases v with
    | object entries =>
      refine ⟨(shape.map rs.check).unknownIssues path entries, fun i hi => ?_, fun verdicts => ⟨?_, fun i hi => ?_⟩⟩
      · obtain ⟨hstrict, key, hkey, hnot, rfl⟩ := Shape.mem_unknownIssues hi
        exact .undeclared hstrict hkey (by simpa using hnot)
      · exact Verdict.not_silent_map (Shape.not_silent_assemble _ _ _ _)
      · rw [Verdict.issues_map, Shape.issues_assemble] at hi
        exact (List.mem_append.1 hi).symm.imp_right List.mem_flatMap.1
    | _ => exact refuses _ _ rfl
  | union candidates =>
    cases candidates with
    | nil => exact refuses _ _ trivial
    | cons s rest => exact ⟨List.cons_ne_nil _ _, rfl⟩
  | optional t =>
    cases hv : v.isUndefined <;> simp only [plan, hv]
    · exact rfl
    · exact Value.eq_undefined hv ▸ accepts
  | nullable t =>
    cases v with
    | null => exact accepts
    | _ => exact rfl
  | nullish t =>
    cases v with
    | undefined => exact accepts
    | null => exact accepts
    | _ => exact rfl
  | default t supplier =>
    cases hv : v.isUndefined <;> simp only [plan, hv]
    · exact rfl
    · exact ⟨rfl, Value.eq_undefined hv⟩
  | refine t r =>
    refine ⟨rfl, fun w => ?_⟩
    unfold Refinement.judge
    split
    · exact .inl ⟨w, rfl⟩
    · exact .inr ⟨.custom path r.message, .here rfl trivial, rfl⟩
  | transform t m =>
    refine ⟨rfl, fun w => ?_⟩
    unfold Mapping.judge
    cases m.apply w with
    | ok out => exact .inl ⟨out, rfl⟩
    | error reason => exact .inr ⟨.custom path reason, .here rfl trivial, rfl⟩
  | reference r =>
    simp only [plan]
    split
    · exact refuses _ _ trivial
    · cases rs.resolve r with
      | ok t => exact rfl
      | error fault => exact refuses _ _ trivial
  | custom check => exact .inl ⟨check, rfl, rfl⟩

/-- **Every issue of a validation was raised by a call that it leads to**, unless by a check of a user's. -/
theorem exists_raises_of_ends (c : Call) : (∀ check, ¬ rs.Reaches c.schema (.custom check)) → ∀ {x : Verdict Value},
    (rs.validate c).Ends x → ∀ {i : Issue}, i ∈ x.issues → ∃ d, Relation.ReflTransGen rs.Calls c d ∧ d.Raises i := by
  induction c using rs.call_induction with
  | step c ih =>
    intro library x hx i hi
    have own : c.Raises i → ∃ d, Relation.ReflTransGen rs.Calls c d ∧ d.Raises i := fun h => ⟨c, .refl, h⟩
    have made : ∀ d y, (rs.plan c).Makes d → (rs.validate d).Ends y → i ∈ y.issues →
        ∃ e, Relation.ReflTransGen rs.Calls c e ∧ e.Raises i := by
      intro d y hd hy hi
      have hcall := calls_of_makes hd
      obtain ⟨e, he, hraises⟩ := ih d hcall (fun check h => library check (reaches_of_calls hcall h)) hy hi
      exact ⟨e, .head hcall he, hraises⟩
    have hsettles := settles_of_ends hx
    have hcontributes := rs.plan_contributes c
    cases hplan : rs.plan c <;> rw [hplan] at hsettles hcontributes made
    case leaf o =>
      rcases hcontributes with ⟨check, hschema, -⟩ | rfl | ⟨j, hj, rfl⟩
      · exact absurd (hschema ▸ .here c.schema) (library check)
      · obtain rfl := (Outcome.ends_ready _ _).1 hsettles
        cases hi
      · obtain rfl := (Outcome.ends_ready _ _).1 hsettles
        obtain rfl := List.mem_singleton.1 hi
        exact own hj
    case same d => exact made d x rfl hsettles hi
    case every calls decide =>
      obtain ⟨verdicts, hverdicts, rfl⟩ := hsettles
      obtain ⟨issues, hraised, hdecide⟩ := hcontributes
      rcases (hdecide verdicts).2 i hi with hi | ⟨y, hy, hi⟩
      · exact own (hraised i hi)
      · obtain ⟨d, hd, hdy⟩ := exists_mem_of_forall₂ (List.Forall₂.flip hverdicts) hy
        exact made d y hd hdy hi
    case first candidates v path =>
      rcases hsettles with ⟨out, rfl, -⟩ | ⟨reports, issues, hreports, hperm, rfl⟩
      · cases hi
      · obtain ⟨r, hr, hi⟩ := List.mem_flatMap.1 (hperm.mem_iff.1 hi)
        obtain ⟨s, hs, hsr⟩ := exists_mem_of_forall₂ (List.Forall₂.flip hreports) hr
        exact made _ _ ⟨s, hs, rfl⟩ hsr hi
    case supplied supplier path call =>
      rcases hsettles with ⟨v, hv, hx⟩ | ⟨reason, rfl⟩
      · exact made _ x ⟨v, hv, rfl⟩ hx hi
      · obtain rfl := List.mem_singleton.1 hi
        exact own (.here hcontributes.1 trivial)
    case effect d step judge =>
      rcases hsettles with ⟨v, -, rfl⟩ | ⟨r, hr, rfl⟩
      · rcases hcontributes.2 v with ⟨out, hout⟩ | ⟨j, hj, hjudge⟩
        · rw [hout] at hi
          cases hi
        · rw [hjudge] at hi
          obtain rfl := List.mem_singleton.1 hi
          exact own hj
      · exact made d _ rfl hr hi

end Registries
end Schemata
