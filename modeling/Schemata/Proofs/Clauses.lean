import Schemata.Validator.Rules
/-!
# Clauses — what a row of clauses makes

`Rules.ofClauses` goes through its clauses once and changes the latest constraint whenever a message is set.  Read
forward the same row says for each rule which words it has (`Rules.ofClauses_eq`): those of the last message that is
set before the next rule is added, if one is.  The messages before any rule are for values of the wrong type.  What is
told of a value in breach of rules is told by the first of them (`Rules.firstViolation_of_first`).

A demand adds its rules at once, so words that are set behind it are those of its last rule.  A `Fault` says what a
demand tells of a value, and whether such words are told instead; `Demand.Means` ties it to the rules.
-/
namespace Schemata

variable {δ κ σ : Type}

namespace Clause

/-- **The words that are set behind a demand**: the last message before the next demand, if there is one. -/
def words : List (Clause δ) → Option String
  | .error message :: rest => (words rest).or (some message)
  | _ => none

/-- What a clause does, one thing after the other: a rule is added, or a message is set. -/
def steps [Demand δ κ] : Clause δ → List (κ ⊕ String)
  | .demand d => (Demand.rules d).map .inl
  | .error message => [.inr message]

/-- The last of the messages that are set before a rule is added. -/
def nextWords : List (κ ⊕ String) → Option String
  | .inr message :: rest => (nextWords rest).or (some message)
  | _ => none

/-- The rules in the order they are added, each with the last message that is set before the next one. -/
def worded : List (κ ⊕ String) → List (Constraint κ)
  | [] => []
  | .inl rule :: rest => ⟨rule, nextWords rest⟩ :: worded rest
  | .inr _ :: rest => worded rest

/-- Words end where a rule is added. -/
theorem nextWords_append_rule (rule : κ) (after : List (κ ⊕ String)) : ∀ before : List (κ ⊕ String),
    nextWords (before ++ .inl rule :: after) = nextWords before
  | [] => rfl
  | .inl _ :: _ => rfl
  | .inr _ :: before => by rw [List.cons_append, nextWords, nextWords, nextWords_append_rule rule after before]

theorem worded_append_rule (rule : κ) (after : List (κ ⊕ String)) : ∀ before : List (κ ⊕ String),
    worded (before ++ .inl rule :: after) = worded before ++ ⟨rule, nextWords after⟩ :: worded after
  | [] => rfl
  | .inl _ :: before => by
    rw [List.cons_append, worded, worded, nextWords_append_rule, worded_append_rule rule after before,
      List.cons_append]
  | .inr _ :: before => by rw [List.cons_append, worded, worded, worded_append_rule rule after before]

theorem mem_rules_worded (rule : κ) : ∀ todo : List (κ ⊕ String),
    rule ∈ (worded todo).map Constraint.rule ↔ .inl rule ∈ todo
  | [] => by simp [worded]
  | .inl _ :: rest => by simp [worded, mem_rules_worded rule rest]
  | .inr _ :: rest => by simp [worded, mem_rules_worded rule rest]

variable [Demand δ κ]

theorem mem_flatMap_steps {clauses : List (Clause δ)} {rule : κ} :
    .inl rule ∈ clauses.flatMap steps ↔ ∃ d, .demand d ∈ clauses ∧ rule ∈ Demand.rules d := by
  rw [List.mem_flatMap]
  constructor
  · rintro ⟨c, hc, hrule⟩
    cases c with
    | demand d =>
      obtain ⟨k, hk, heq⟩ := List.mem_map.1 hrule
      exact ⟨d, hc, Sum.inl.inj heq ▸ hk⟩
    | error message => cases List.mem_singleton.1 hrule
  · rintro ⟨d, hd, hrule⟩
    exact ⟨.demand d, hd, List.mem_map_of_mem hrule⟩

/-- Words reach from demand to demand, since each adds a rule. -/
theorem nextWords_steps : ∀ clauses : List (Clause δ), nextWords (clauses.flatMap steps) = words clauses
  | [] => rfl
  | .demand d :: rest => by
    obtain ⟨rule, rules, hrules⟩ := List.exists_cons_of_ne_nil (Demand.rules_ne_nil d)
    rw [List.flatMap_cons, steps, hrules]
    rfl
  | .error message :: rest => by rw [List.flatMap_cons, words, ← nextWords_steps rest]; rfl

end Clause

namespace Rules

open Clause

def applyStep (rs : Rules κ) : κ ⊕ String → Rules κ
  | .inl rule => rs.add rule
  | .inr message => rs.error message

theorem apply_eq_foldl_steps [Demand δ κ] (rs : Rules κ) (c : Clause δ) : rs.apply c = c.steps.foldl applyStep rs := by
  cases c with
  | demand d =>
    rw [steps, List.foldl_map]
    rfl
  | error message => rfl

theorem foldl_apply_eq [Demand δ κ] (clauses : List (Clause δ)) (rs : Rules κ) :
    clauses.foldl apply rs = (clauses.flatMap steps).foldl applyStep rs := by
  rw [List.foldl_flatMap]
  congr
  funext rs c
  exact apply_eq_foldl_steps rs c

/-- **Once a rule is there, the words that follow are its words** up to the next rule, and those after are for that. -/
theorem foldl_applyStep_of_constraint (typeMessage : Option String) : ∀ (todo : List (κ ⊕ String))
    (done : List (Constraint κ)) (latest : Constraint κ),
    todo.foldl applyStep ⟨typeMessage, done ++ [latest]⟩ =
      ⟨typeMessage, done ++ ⟨latest.rule, (nextWords todo).or latest.message⟩ :: worded todo⟩
  | [], done, latest => rfl
  | .inl rule :: rest, done, latest => by
    have ih := foldl_applyStep_of_constraint typeMessage rest (done ++ [latest]) ⟨rule, none⟩
    rw [List.foldl_cons]
    simpa [applyStep, add, nextWords, worded] using ih
  | .inr message :: rest, done, latest => by
    have ih := foldl_applyStep_of_constraint typeMessage rest done ⟨latest.rule, some message⟩
    rw [List.foldl_cons]
    simpa [applyStep, error, nextWords, worded, Option.or_assoc] using ih

/-- While there is no rule, words are for the type. -/
theorem foldl_applyStep_of_none : ∀ (todo : List (κ ⊕ String)) (typeMessage : Option String),
    todo.foldl applyStep ⟨typeMessage, []⟩ = ⟨(nextWords todo).or typeMessage, worded todo⟩
  | [], _ => rfl
  | .inl rule :: rest, typeMessage => by
    have h := foldl_applyStep_of_constraint typeMessage rest [] ⟨rule, none⟩
    rw [List.foldl_cons]
    simpa [applyStep, add, nextWords, worded] using h
  | .inr message :: rest, typeMessage => by
    have ih := foldl_applyStep_of_none rest (some message)
    rw [List.foldl_cons]
    simpa [applyStep, error, nextWords, worded, Option.or_assoc] using ih

/-- **What clauses make**, read forward. -/
theorem ofClauses_eq [Demand δ κ] (clauses : List (Clause δ)) :
    ofClauses clauses = ⟨words clauses, worded (clauses.flatMap steps)⟩ := by
  rw [ofClauses, foldl_apply_eq, empty, foldl_applyStep_of_none, Option.or_none, nextWords_steps]

/-! ## The first rule that does not hold -/

variable [Rule κ σ]

theorem violations_eq_nil_iff (rules : Rules κ) (path : Path) (x : σ) :
    rules.violations path x = [] ↔ ∀ k ∈ rules.constraints.map Constraint.rule, Rule.holds k x = true := by
  simp [violations, issue?, List.filterMap_eq_nil_iff]

theorem firstViolation_eq_ok_iff (rules : Rules κ) (path : Path) (x y : σ) :
    rules.firstViolation path x = .ok y ↔ rules.violations path x = [] ∧ y = x := by
  unfold firstViolation
  cases rules.violations path x with
  | nil => simp [eq_comm]
  | cons i is => simp

/-- **The first rule that does not hold is what is reported.** -/
theorem firstViolation_of_first {rules : Rules κ} {earlier later : List (Constraint κ)} {c : Constraint κ} {x : σ}
    (path : Path) (hrules : rules.constraints = earlier ++ c :: later)
    (hearlier : ∀ d ∈ earlier, Rule.holds d.rule x = true) (hc : ¬ Rule.holds c.rule x = true) :
    rules.firstViolation path x =
      .error (.single ⟨path, Rule.code c.rule, c.message.getD (Rule.message c.rule x)⟩) := by
  have hnone : earlier.filterMap (issue? path x) = [] :=
    List.filterMap_eq_nil_iff.2 fun d hd => if_pos (hearlier d hd)
  have hissue : issue? path x c = some ⟨path, Rule.code c.rule, c.message.getD (Rule.message c.rule x)⟩ := if_neg hc
  rw [firstViolation, violations, hrules, List.filterMap_append, hnone, List.nil_append,
    List.filterMap_cons_some hissue]

end Rules

/-! ## What a demand tells -/

/-- What is told of a value that a demand does not allow: a code and words, and whether words that are set behind the
demand are told in their place. -/
structure Fault where
  code : Code
  words : String
  replaceable : Bool

/-- The issue of a fault, where `set` are the words behind the demand. -/
def Fault.issue (f : Fault) (path : Path) (set : Option String) : Issue :=
  ⟨path, f.code, if f.replaceable then set.getD f.words else f.words⟩

/-- **What a demand means for a value** comes to the same as its rules: it allows the value if all of them hold, and else
the first that does not is the fault.  Only the last of them has the words behind the demand. -/
structure Demand.Means [Demand δ κ] [Rule κ σ] (d : δ) (x : σ) (allowed : Prop) (fault : Fault) : Prop where
  allowed_iff : allowed ↔ ∀ rule ∈ Demand.rules d, Rule.holds rule x = true
  refused : ¬ allowed → ∃ earlier rule later, Demand.rules d = earlier ++ rule :: later ∧
    (∀ k ∈ earlier, Rule.holds k x = true) ∧ ¬ Rule.holds rule x = true ∧
      fault = ⟨Rule.code rule, Rule.message rule x, later.isEmpty⟩

namespace Demand.Means

variable [Demand δ κ] [Rule κ σ] {d : δ} {x : σ} {allowed : Prop} {fault : Fault}

theorem of_single {rule : κ} (hrules : Demand.rules d = [rule]) (hallowed : Rule.holds rule x = true ↔ allowed)
    (hfault : fault = ⟨Rule.code rule, Rule.message rule x, true⟩) : Means d x allowed fault where
  allowed_iff := by rw [hrules, List.forall_mem_singleton, hallowed]
  refused hnot := ⟨[], rule, [], hrules, List.forall_mem_nil _, mt hallowed.1 hnot, hfault⟩

theorem of_pair {lower upper : κ} (hrules : Demand.rules d = [lower, upper])
    (hallowed : Rule.holds lower x = true ∧ Rule.holds upper x = true ↔ allowed)
    (hlower : ¬ Rule.holds lower x = true → fault = ⟨Rule.code lower, Rule.message lower x, false⟩)
    (hupper : Rule.holds lower x = true → fault = ⟨Rule.code upper, Rule.message upper x, true⟩) :
    Means d x allowed fault where
  allowed_iff := by rw [hrules, List.forall_mem_cons, List.forall_mem_singleton, hallowed]
  refused hnot := by
    by_cases h : Rule.holds lower x = true
    · exact ⟨[lower], upper, [], hrules, List.forall_mem_singleton.2 h, fun hu => hnot (hallowed.1 ⟨h, hu⟩), hupper h⟩
    · exact ⟨[], lower, [upper], hrules, List.forall_mem_nil _, h, hlower h⟩

end Demand.Means
end Schemata
