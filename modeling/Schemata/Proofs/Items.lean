import Schemata.Proofs.Clauses
import Schemata.Proofs.Members
/-!
# Items — what an array comes to, issue by issue

An array starts all its items, each once and in order, whatever is demanded of its length, and waits for the pending
ones together.  Every demand that the length does not meet is an issue, in its own words or in those that were set
behind it, and the issues of the items follow.  That list decides (`Validator.array_exact`).
-/
namespace Schemata

variable {α : Type}

/-- What a demand asks of a length. -/
def LengthDemand.Allows (length : Nat) : LengthDemand → Prop
  | .atLeast n => n ≤ length
  | .atMost n => length ≤ n
  | .nonEmpty => 0 < length

instance (length : Nat) : DecidablePred (LengthDemand.Allows length)
  | .atLeast n => Nat.decLe n length
  | .atMost n => Nat.decLe length n
  | .nonEmpty => Nat.decLt 0 length

/-- What is told of a length that a demand does not allow. -/
def LengthDemand.fault (length : Nat) : LengthDemand → Fault
  | .atLeast n => ⟨.tooSmall, (LengthRule.atLeast n).message length, true⟩
  | .atMost n => ⟨.tooBig, (LengthRule.atMost n).message length, true⟩
  | .nonEmpty => ⟨.tooSmall, (LengthRule.atLeast 1).message length, true⟩

/-- **The issues of a length**: one for every demand that does not allow it, in the order the demands were made. -/
def Clause.lengthIssues (path : Path) (length : Nat) : List (Clause LengthDemand) → List Issue
  | [] => []
  | .demand d :: rest =>
    if d.Allows length then lengthIssues path length rest
    else (d.fault length).issue path (words rest) :: lengthIssues path length rest
  | .error _ :: rest => lengthIssues path length rest

theorem LengthDemand.exists_rule (length : Nat) (d : LengthDemand) : ∃ rule, Demand.rules d = [rule] ∧
    (Rule.holds rule length = true ↔ d.Allows length) ∧
      d.fault length = ⟨Rule.code rule, Rule.message rule length, true⟩ := by
  cases d with
  | atLeast n => exact ⟨.atLeast n, rfl, decide_eq_true_iff, rfl⟩
  | atMost n => exact ⟨.atMost n, rfl, decide_eq_true_iff, rfl⟩
  | nonEmpty => exact ⟨.atLeast 1, rfl, decide_eq_true_iff, rfl⟩

theorem Clause.violations_ofClauses (path : Path) (length : Nat) : ∀ clauses : List (Clause LengthDemand),
    (Rules.ofClauses clauses).violations path length = lengthIssues path length clauses
  | [] => rfl
  | .error message :: rest => by
    rw [lengthIssues, ← violations_ofClauses path length rest]
    simp only [Rules.ofClauses_eq, Rules.violations, List.flatMap_cons, steps, List.singleton_append, worded]
  | .demand d :: rest => by
    obtain ⟨rule, hrules, hholds, hfault⟩ := d.exists_rule length
    have hconstraints : (Rules.ofClauses (.demand d :: rest)).constraints =
        ⟨rule, words rest⟩ :: (Rules.ofClauses rest).constraints := by
      simp only [Rules.ofClauses_eq, List.flatMap_cons, steps, hrules, List.map_cons, List.map_nil, List.singleton_append,
        worded, nextWords_steps]
    rw [lengthIssues, ← violations_ofClauses path length rest, hfault, Rules.violations, hconstraints]
    by_cases h : d.Allows length
    · have hnone : Rules.issue? path length ⟨rule, words rest⟩ = none := if_pos (hholds.2 h)
      rw [if_pos h, List.filterMap_cons_none hnone, Rules.violations]
    · have hsome : Rules.issue? path length ⟨rule, words rest⟩ =
          some ⟨path, Rule.code rule, (words rest).getD (Rule.message rule length)⟩ := if_neg (mt hholds.1 h)
      rw [if_neg h, List.filterMap_cons_some hsome, Rules.violations]
      rfl

namespace Verdict

theorem gather_of_ne_nil {before : List Issue} {verdicts : List (Verdict α)}
    (h : before ++ verdicts.flatMap issues ≠ []) :
    gather before verdicts = .error ⟨before ++ verdicts.flatMap issues⟩ := by
  unfold gather allIssues
  split
  · contradiction
  · rfl

theorem gather_of_nil {before : List Issue} {verdicts : List (Verdict α)} (h : before ++ verdicts.flatMap issues = []) :
    gather before verdicts = .ok (verdicts.filterMap output?) := by
  unfold gather allIssues
  rw [h]

end Verdict

/-- **What is made of joined outcomes**: they are started in order and awaited together, and what they come to is made
into one thing at the end. -/
theorem Outcome.start_settle_join_map {β : Type} (f : List α → β) (os : List (Outcome α)) (counters : Counters) :
    let asked := startAll os counters
    let joint := (Deferred.all (asked.result.map Launch.toDeferred)).await asked.counters
    let launched := ((join os).map f).start counters
    (launched.log = asked.log ∧ launched.counters = asked.counters ∧
      (launched.result.isPending = true ↔ ∃ l ∈ asked.result, l.isPending = true)) ∧
    ((join os).map f).settle counters = (joint.map f).afterAll asked.log ∧ List.Forall₂ Ends os joint.result ∧
    ∀ as, List.Forall₂ Certain os as → joint.result = as := by
  intro asked joint launched
  have hjoined : (join os).settle counters = joint.afterAll asked.log := settle_join os counters
  have hstart := start_map f (join os) counters
  have hstartAll := start_join os counters
  refine ⟨⟨hstart.1.trans hstartAll.1, hstart.2.trans hstartAll.2, ?_⟩, ?_, ?_, fun as hcertain => ?_⟩
  · rw [← isPending_start_join os counters, ← isPending_start_map f]
  · rw [settle_map, hjoined]
    rfl
  · have h := ends_join (ends_settle (join os) counters)
    rwa [hjoined] at h
  · have h := (Certain.join hcertain).settle counters
    rwa [hjoined] at h

namespace Validator

/-- **What an array comes to.**  `asked` is what the items come to when they are started one after the other, each at
its position, and `joint` how they go when they are awaited together; items that cannot come to anything else come to
that.  All items are started, once each and in order, whatever is demanded of their number, and the array is pending
exactly when an item is.  There is an issue for every demand that the length does not meet, in the order the demands
were made and each in the last words set behind it before the next, and after them stand the issues of the items in the
order of their positions.  Any issue, and the issues are all that is reported; without one the outputs of the items are
the output.  Whether an item was ready or pending shows in neither. -/
theorem array_exact (clauses : List (Clause LengthDemand)) (item : Validator α) (items : List Value) (path : Path)
    (counters : Counters) :
    let rules := Rules.ofClauses clauses
    let outcomes := items.mapIdx fun i v => item.run v (path.index i)
    let asked := Outcome.startAll outcomes counters
    let joint := (Deferred.all (asked.result.map Launch.toDeferred)).await asked.counters
    let launched := ((Validator.array rules item).run (.array items) path).start counters
    let settled := ((Validator.array rules item).run (.array items) path).settle counters
    let found := Clause.lengthIssues path items.length clauses ++ joint.result.flatMap Verdict.issues
    (launched.log = asked.log ∧ launched.counters = asked.counters ∧
      (launched.result.isPending = true ↔ ∃ l ∈ asked.result, l.isPending = true)) ∧
    (settled.log = asked.log ++ joint.log ∧
      Deferred.RunTogether (asked.result.map Launch.toDeferred) joint.log joint.result ∧
      joint.result.length = items.length ∧
      ∀ verdicts, List.Forall₂ Outcome.Certain outcomes verdicts → joint.result = verdicts) ∧
    (found ≠ [] → settled.result = .error ⟨found⟩) ∧
    (found = [] → settled.result = .ok (joint.result.filterMap Verdict.output?)) := by
  intro rules outcomes asked joint launched settled found
  obtain ⟨hlaunched, hsettled, hends, hcertain⟩ :=
    Outcome.start_settle_join_map (Verdict.gather (rules.violations path items.length)) outcomes counters
  have hresult : settled.result = Verdict.gather (Clause.lengthIssues path items.length clauses) joint.result := by
    rw [← Clause.violations_ofClauses]
    exact congrArg Run.result hsettled
  have hlength : joint.result.length = items.length := by
    rw [← hends.length_eq, List.length_mapIdx]
  refine ⟨hlaunched, ⟨congrArg Run.log hsettled, Deferred.runs_all (Deferred.runs_await _ _), hlength, hcertain⟩,
    fun hne => ?_, fun hnil => ?_⟩
  · rw [hresult, Verdict.gather_of_ne_nil hne]
  · rw [hresult, Verdict.gather_of_nil hnil]

/-- Three items are too few and too many, with words that were set for the one, and of the three a late one and one that
was there at once are refused: four issues, the items in their order. -/
theorem array_of_late_items :
    let clauses : List (Clause LengthDemand) := [.error "a list, please", .demand (.atLeast 4), .error "some more",
      .error "more", .demand (.atMost 2), .demand .nonEmpty]
    let late : Check := fun _ path => .pending (.pause (.done (.error (.custom path "late"))))
    let prompt : Check := fun _ path => .failure (.custom path "prompt")
    let item : Validator Value := .ofCheck fun v path =>
      match v with
      | .null => late v path
      | .undefined => prompt v path
      | v => .success v
    let items : List Value := [.null, .bool true, .undefined]
    let verdicts : List (Verdict Value) :=
      [.error (.custom (Path.root.index 0) "late"), .ok (.bool true), .error (.custom (Path.root.index 2) "prompt")]
    List.Forall₂ Outcome.Certain (items.mapIdx fun i v => item.run v (Path.root.index i)) verdicts ∧
      (((Validator.array (.ofClauses clauses) item).run (.array items) .root).settle .fresh).result = .error ⟨[
        ⟨.root, .tooSmall, "more"⟩,
        ⟨.root, .tooBig, "array must contain at most 2 item(s), got 3"⟩,
        ⟨Path.root.index 0, .custom, "late"⟩,
        ⟨Path.root.index 2, .custom, "prompt"⟩]⟩ := by
  intro clauses late prompt item items verdicts
  have hcertain : List.Forall₂ Outcome.Certain (items.mapIdx fun i v => item.run v (Path.root.index i)) verdicts :=
    .cons (fun x hx => (Deferred.ends_done _ x).1 hx)
      (.cons (Outcome.certain_ready _) (.cons (Outcome.certain_ready _) .nil))
  obtain ⟨-, ⟨-, -, -, hitems⟩, hrefused, -⟩ := array_exact clauses item items .root .fresh
  have hjoint := hitems verdicts hcertain
  have hfound : Clause.lengthIssues .root items.length clauses ++ verdicts.flatMap Verdict.issues = [
        ⟨.root, .tooSmall, "more"⟩,
        ⟨.root, .tooBig, "array must contain at most 2 item(s), got 3"⟩,
        ⟨Path.root.index 0, .custom, "late"⟩,
        ⟨Path.root.index 2, .custom, "prompt"⟩] := by decide
  rw [hjoint, hfound] at hrefused
  exact ⟨hcertain, hrefused (List.cons_ne_nil _ _)⟩

end Validator
end Schemata
