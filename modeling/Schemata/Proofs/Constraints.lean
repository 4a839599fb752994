import Schemata.Proofs.Addresses
import Schemata.Proofs.Clauses
import Schemata.Proofs.Wholes
import Schemata.Validator.Numeric
/-!
# Constraints — what a string or a number is told

The clauses that make a schema of strings or of numbers decide on every value (`Clause.Decide`).  One of another type is
told so in the last words that were set before any demand.  Any other is accepted as it is if all demands allow it, and
else it is told of the first that does not, in the last words that were set after that demand and before the next.

An exact length and a pair of bounds are demanded from below and then from above.  So whoever is below is told of the
lower bound in its own words, and the words that are set behind such a demand are those of the upper one.
-/
namespace Schemata

/-- What a demand asks of a string. -/
def TextDemand.Allows (s : String) : TextDemand → Prop
  | .minLength n => n ≤ s.length
  | .maxLength n => s.length ≤ n
  | .exactLength n => s.length = n
  | .nonEmpty => s ≠ ""
  | .pattern p => p.matchesIn s = true
  | .email => Email.IsAddress s.toList
  | .startsWith t => t.toList <+: s.toList
  | .endsWith t => t.toList <:+ s.toList

/-- What is told of a string that a demand does not allow. -/
def TextDemand.fault (s : String) : TextDemand → Fault
  | .minLength n => ⟨.tooSmall, (TextRule.minLength n).message s, true⟩
  | .maxLength n => ⟨.tooBig, (TextRule.maxLength n).message s, true⟩
  | .exactLength n =>
    if s.length < n then ⟨.tooSmall, (TextRule.minLength n).message s, false⟩
    else ⟨.tooBig, (TextRule.maxLength n).message s, true⟩
  | .nonEmpty => ⟨.tooSmall, (TextRule.minLength 1).message s, true⟩
  | .pattern p => ⟨.invalidString, (TextRule.pattern p).message s, true⟩
  | .email => ⟨.invalidString, TextRule.email.message s, true⟩
  | .startsWith t => ⟨.invalidString, (TextRule.startsWith t).message s, true⟩
  | .endsWith t => ⟨.invalidString, (TextRule.endsWith t).message s, true⟩

/-- What a demand asks of a number.  Bounds are compared on the line, and *not a number* bounds nothing. -/
def NumericDemand.Allows (x : Number) : NumericDemand → Prop
  | .atLeast bound => bound.isNan = false ∧ bound.units ≤ x.units
  | .above bound => bound.isNan = false ∧ bound.units < x.units
  | .atMost bound => bound.isNan = false ∧ x.units ≤ bound.units
  | .below bound => bound.isNan = false ∧ x.units < bound.units
  | .between lo hi => (lo.isNan = false ∧ lo.units ≤ x.units) ∧ hi.isNan = false ∧ x.units ≤ hi.units
  | .positive => 0 < x.units
  | .nonNegative => 0 ≤ x.units
  | .negative => x.units < 0
  | .integral => ∃ n : Int, x.Is n
  | .finite => x.isFinite = true

/-- What is told of a number that a demand does not allow. -/
def NumericDemand.fault (x : Number) : NumericDemand → Fault
  | .atLeast bound => ⟨.tooSmall, (NumericRule.atLeast bound).message x, true⟩
  | .above bound => ⟨.tooSmall, (NumericRule.above bound).message x, true⟩
  | .atMost bound => ⟨.tooBig, (NumericRule.atMost bound).message x, true⟩
  | .below bound => ⟨.tooBig, (NumericRule.below bound).message x, true⟩
  | .between lo hi =>
    if lo.isNan = false ∧ lo.units ≤ x.units then ⟨.tooBig, (NumericRule.atMost hi).message x, true⟩
    else ⟨.tooSmall, (NumericRule.atLeast lo).message x, false⟩
  | .positive => ⟨.tooSmall, (NumericRule.above .zero).message x, true⟩
  | .nonNegative => ⟨.tooSmall, (NumericRule.atLeast .zero).message x, true⟩
  | .negative => ⟨.tooBig, (NumericRule.below .zero).message x, true⟩
  | .integral => ⟨.invalidType, NumericRule.integral.message x, true⟩
  | .finite => ⟨.invalidType, NumericRule.finite.message x, true⟩

theorem TextRule.holds_minLength (n : Nat) (s : String) : Rule.holds (minLength n) s = true ↔ n ≤ s.length :=
  decide_eq_true_iff

theorem TextRule.holds_maxLength (n : Nat) (s : String) : Rule.holds (maxLength n) s = true ↔ s.length ≤ n :=
  decide_eq_true_iff

theorem TextDemand.means (s : String) (d : TextDemand) : Demand.Means d s (d.Allows s) (d.fault s) := by
  cases d with
  | minLength n => exact .of_single rfl (TextRule.holds_minLength n s) rfl
  | maxLength n => exact .of_single rfl (TextRule.holds_maxLength n s) rfl
  | exactLength n =>
    refine .of_pair rfl ?_ (fun hlower => ?_) fun hlower => ?_
    · rw [TextRule.holds_minLength, TextRule.holds_maxLength, Allows]
      omega
    · rw [TextRule.holds_minLength] at hlower
      exact if_pos (by omega)
    · rw [TextRule.holds_minLength] at hlower
      exact if_neg (by omega)
  | nonEmpty =>
    refine .of_single rfl ?_ rfl
    rw [TextRule.holds_minLength, Allows, ne_eq, ← String.length_eq_zero_iff]
    omega
  | pattern p => exact .of_single rfl Iff.rfl rfl
  | email => exact .of_single rfl (Email.accepts_iff s) rfl
  | startsWith t => exact .of_single rfl List.isPrefixOf_iff_prefix rfl
  | endsWith t => exact .of_single rfl List.isSuffixOf_iff_suffix rfl

namespace NumericRule

variable {x : Number} (hx : x.isNan = false) (bound : Number)

include hx

theorem holds_atLeast : Rule.holds (atLeast bound) x = true ↔ bound.isNan = false ∧ bound.units ≤ x.units := by
  simp [Rule.holds, holds, Number.atMost, hx]

theorem holds_above : Rule.holds (above bound) x = true ↔ bound.isNan = false ∧ bound.units < x.units := by
  simp [Rule.holds, holds, Number.below, hx]

theorem holds_atMost : Rule.holds (atMost bound) x = true ↔ bound.isNan = false ∧ x.units ≤ bound.units := by
  simp [Rule.holds, holds, Number.atMost, hx]

theorem holds_below : Rule.holds (below bound) x = true ↔ bound.isNan = false ∧ x.units < bound.units := by
  simp [Rule.holds, holds, Number.below, hx]

end NumericRule

theorem NumericDemand.means {x : Number} (hx : x.isNan = false) (d : NumericDemand) :
    Demand.Means d x (d.Allows x) (d.fault x) := by
  have zero_bounds : ∀ {p : Prop}, Number.zero.isNan = false ∧ p ↔ p := and_iff_right rfl
  cases d with
  | atLeast bound => exact .of_single rfl (NumericRule.holds_atLeast hx bound) rfl
  | above bound => exact .of_single rfl (NumericRule.holds_above hx bound) rfl
  | atMost bound => exact .of_single rfl (NumericRule.holds_atMost hx bound) rfl
  | below bound => exact .of_single rfl (NumericRule.holds_below hx bound) rfl
  | between lo hi =>
    have hlo := NumericRule.holds_atLeast hx lo
    refine .of_pair rfl ?_ (fun hlower => if_neg (mt hlo.2 hlower)) fun hlower => if_pos (hlo.1 hlower)
    rw [hlo, NumericRule.holds_atMost hx hi]
    rfl
  | positive => exact .of_single rfl ((NumericRule.holds_above hx .zero).trans zero_bounds) rfl
  | nonNegative => exact .of_single rfl ((NumericRule.holds_atLeast hx .zero).trans zero_bounds) rfl
  | negative => exact .of_single rfl ((NumericRule.holds_below hx .zero).trans zero_bounds) rfl
  | integral =>
    refine .of_single rfl (Option.isSome_iff_exists.trans (exists_congr fun n => ?_)) rfl
    exact Number.toInt?_eq_some_iff n x
  | finite => exact .of_single rfl Iff.rfl rfl

namespace Clause

variable {δ κ σ : Type} [Demand δ κ] [Rule κ σ]

/-- **What clauses decide** of every value.  Those that are `typed` have the type of the schema, which messages call
`expected`; `allows` says what a demand asks of them, and `fault` what is told of those that it does not allow. -/
structure Decide (clauses : List (Clause δ)) (expected : String) (typed : σ → Prop) (allows : σ → δ → Prop)
    (fault : σ → δ → Fault) (schema : Validator σ) : Prop where
  /-- Of a value of another type there is one issue, in the last words that were set before any demand. -/
  mismatched (v : Value) (path : Path) : (∀ x, typed x → v ≠ schema.toValue x) →
    schema.check v path = .failure (.single
      ⟨path, .invalidType, (words clauses).getD (mismatchText expected v.typeName)⟩)
  /-- Any other value is accepted, as it is, if every demand allows it, and only then. -/
  accepted (x : σ) (path : Path) : typed x →
    (schema.check (schema.toValue x) path = .success (schema.toValue x) ↔ ∀ d, .demand d ∈ clauses → allows x d)
  /-- Otherwise there is one issue, of the first demand that does not allow it, in the last words that were set after
  that demand and before the next. -/
  refused (x : σ) (path : Path) : typed x → (∃ d, .demand d ∈ clauses ∧ ¬ allows x d) →
    ∃ before d after, clauses = before ++ .demand d :: after ∧ (∀ earlier, .demand earlier ∈ before → allows x earlier) ∧
      ¬ allows x d ∧ schema.check (schema.toValue x) path = .failure (.single ((fault x d).issue path (words after)))

/-- Where some demand is refused, one is the first. -/
theorem exists_first {P : δ → Prop} : ∀ {clauses : List (Clause δ)}, (∃ d, .demand d ∈ clauses ∧ ¬ P d) →
    ∃ before d after, clauses = before ++ .demand d :: after ∧ (∀ earlier, .demand earlier ∈ before → P earlier) ∧
      ¬ P d
  | [], h => by
    obtain ⟨_, h, -⟩ := h
    cases h
  | clause :: rest, ⟨d, hmem, hd⟩ => by
    by_cases hclause : ∃ first, clause = .demand first ∧ ¬ P first
    · obtain ⟨first, rfl, hfirst⟩ := hclause
      exact ⟨[], first, rest, rfl, nofun, hfirst⟩
    · have hne : Clause.demand d ≠ clause := fun heq => hclause ⟨d, heq.symm, hd⟩
      obtain ⟨before, first, after, rfl, hbefore, hfirst⟩ :=
        exists_first ⟨d, (List.mem_cons.1 hmem).resolve_left hne, hd⟩
      refine ⟨clause :: before, first, after, rfl, fun earlier hearlier => ?_, hfirst⟩
      obtain heq | hearlier := List.mem_cons.1 hearlier
      · exact not_not.1 fun hn => hclause ⟨earlier, heq.symm, hn⟩
      · exact hbefore earlier hearlier

/-- The words behind a demand are behind its last rule. -/
theorem nextWords_rules (later : List κ) (after : List (Clause δ)) :
    nextWords (later.map .inl ++ after.flatMap steps) = if later.isEmpty then words after else none := by
  cases later with
  | nil => exact nextWords_steps after
  | cons rule later => rfl

variable {clauses : List (Clause δ)} {allows : σ → δ → Prop} {fault : σ → δ → Fault} {x : σ}

theorem firstViolation_of_allowed (hmeans : ∀ d, Demand.Means d x (allows x d) (fault x d)) (path : Path)
    (hall : ∀ d, .demand d ∈ clauses → allows x d) : (Rules.ofClauses clauses).firstViolation path x = .ok x := by
  have hnil : (Rules.ofClauses clauses).violations path x = [] := by
    rw [Rules.violations_eq_nil_iff, Rules.ofClauses_eq]
    intro rule hrule
    obtain ⟨d, hd, hmem⟩ := mem_flatMap_steps.1 ((mem_rules_worded rule _).1 hrule)
    exact (hmeans d).allowed_iff.1 (hall d hd) rule hmem
  exact (Rules.firstViolation_eq_ok_iff _ path x x).2 ⟨hnil, rfl⟩

/-- **The first demand that does not allow a value is what is reported.** -/
theorem firstViolation_of_refused (hmeans : ∀ d, Demand.Means d x (allows x d) (fault x d)) (path : Path)
    {before after : List (Clause δ)} {d : δ} (hbefore : ∀ earlier, .demand earlier ∈ before → allows x earlier)
    (hd : ¬ allows x d) : (Rules.ofClauses (before ++ .demand d :: after)).firstViolation path x =
      .error (.single ((fault x d).issue path (words after))) := by
  obtain ⟨earlier, rule, later, hrules, hearlier, hrule, hfault⟩ := (hmeans d).refused hd
  have hsteps : (before ++ .demand d :: after).flatMap steps =
      (before.flatMap steps ++ earlier.map .inl) ++ .inl rule :: (later.map .inl ++ after.flatMap steps) := by
    rw [List.flatMap_append, List.flatMap_cons, steps, hrules]
    simp
  have hworded : (Rules.ofClauses (before ++ .demand d :: after)).constraints =
      worded (before.flatMap steps ++ earlier.map .inl) ++
        ⟨rule, if later.isEmpty then words after else none⟩ :: worded (later.map .inl ++ after.flatMap steps) := by
    rw [Rules.ofClauses_eq, hsteps, worded_append_rule, nextWords_rules]
  have hholds : ∀ c ∈ worded (before.flatMap steps ++ earlier.map .inl), Rule.holds c.rule x = true := by
    intro c hc
    rcases List.mem_append.1 ((mem_rules_worded c.rule _).1 (List.mem_map_of_mem hc)) with hmem | hmem
    · obtain ⟨d', hd', hrule'⟩ := mem_flatMap_steps.1 hmem
      exact (hmeans d').allowed_iff.1 (hbefore d' hd') c.rule hrule'
    · obtain ⟨k, hk, heq⟩ := List.mem_map.1 hmem
      exact Sum.inl.inj heq ▸ hearlier k hk
  rw [Rules.firstViolation_of_first path hworded hholds hrule, hfault]
  cases later <;> rfl

/-- A schema that reports the first violation of its rules on what is typed, and a mismatch on anything else, decides
as its clauses say. -/
theorem decide_of_checks {expected : String} {typed : σ → Prop} {schema : Validator σ}
    (hmeans : ∀ x, typed x → ∀ d : δ, Demand.Means d x (allows x d) (fault x d))
    (hmismatch : ∀ v path, (∀ x, typed x → v ≠ schema.toValue x) →
      schema.run v path = mismatch path .invalidType expected v (Rules.ofClauses clauses).typeMessage)
    (htyped : ∀ x path, typed x →
      schema.run (schema.toValue x) path = .ready ((Rules.ofClauses clauses).firstViolation path x)) :
    Decide clauses expected typed allows fault schema := by
  have hchecked : ∀ x path, typed x → schema.check (schema.toValue x) path =
      .ready (((Rules.ofClauses clauses).firstViolation path x).map schema.toValue) := fun x path hx => by
    rw [Validator.check, htyped x path hx]
    rfl
  have hrefused : ∀ x path, typed x → (∃ d, .demand d ∈ clauses ∧ ¬ allows x d) →
      ∃ before d after, clauses = before ++ .demand d :: after ∧
        (∀ earlier, .demand earlier ∈ before → allows x earlier) ∧ ¬ allows x d ∧
          schema.check (schema.toValue x) path = .failure (.single ((fault x d).issue path (words after))) := by
    intro x path hx hrefused
    obtain ⟨before, d, after, hclauses, hbefore, hd⟩ := exists_first hrefused
    refine ⟨before, d, after, hclauses, hbefore, hd, ?_⟩
    rw [hchecked x path hx, hclauses, firstViolation_of_refused (hmeans x hx) path hbefore hd]
    rfl
  refine ⟨fun v path hv => ?_, fun x path hx => ⟨fun haccepted d hmem => ?_, fun hall => ?_⟩, hrefused⟩
  · rw [Validator.check, hmismatch v path hv, Rules.ofClauses_eq]
    rfl
  · by_contra hd
    obtain ⟨_, _, _, -, -, -, hfailure⟩ := hrefused x path hx ⟨d, hmem, hd⟩
    rw [hfailure] at haccepted
    cases haccepted
  · rw [hchecked x path hx, firstViolation_of_allowed (hmeans x hx) path hall]
    rfl

end Clause

namespace Validator

/-- **What a schema of strings and one of numbers decide** is what is demanded of them, clause by clause, whatever the
clauses are: in any order, and as many as there may be.  *Not a number* is of another type than the numbers. -/
theorem clauses_decide :
    (∀ clauses : List (Clause TextDemand), Clause.Decide clauses "string" (fun _ => True) TextDemand.Allows
      TextDemand.fault (Validator.string (.ofClauses clauses))) ∧
    ∀ clauses : List (Clause NumericDemand), Clause.Decide clauses "number" (fun x => x.isNan = false)
      NumericDemand.Allows NumericDemand.fault (Validator.number (.ofClauses clauses)) := by
  constructor
  · intro clauses
    refine Clause.decide_of_checks (fun s _ d => d.means s) (fun v path hv => ?_) fun _ _ _ => rfl
    cases v with
    | string s => exact absurd rfl (hv s trivial)
    | _ => rfl
  · intro clauses
    refine Clause.decide_of_checks (fun x hx d => d.means hx) (fun v path hv => ?_) fun x path hx => ?_
    · cases v with
      | number x =>
        have hx : x.isNan = true := Bool.of_not_eq_false fun hx => hv x hx rfl
        exact if_pos hx
      | _ => rfl
    · exact if_neg (by rw [hx]; exact Bool.false_ne_true)

/-- Exactly three characters, in words that are the upper bound's: a short text is told of the lower one. -/
example :
    let rules := Rules.ofClauses [.error "a code, please", .demand (TextDemand.exactLength 3), .error "too long"]
    (Validator.string rules).check (.string "ab") .root =
      .failure (.single ⟨.root, .tooSmall, "string must contain at least 3 character(s), got 2"⟩) := by
  rfl

end Validator
end Schemata
