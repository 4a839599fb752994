import Schemata.Proofs.Calls
/-!
# Hops — references followed on the way

A path counts the references that were followed to reach it.  Along a chain of calls the count grows by the references
that the chain itself follows (`Registries.references_of_chain`): what was followed for a sibling, for an earlier item or
for an earlier candidate is on another chain.  A reference is followed only below its own limit, so no count passes both
where it started and the greatest limit there is (`Registries.references_le_of_chain`).
-/
namespace Schemata
namespace Registries

variable {rs : Registries}

/-- A chain of calls from one to another, with the number of references that it follows. -/
inductive Chain (rs : Registries) (c : Call) : Nat → Call → Prop where
  | start : Chain rs c 0 c
  | call {n : Nat} {d e : Call} : Chain rs c n d → rs.Calls d e → Chain rs c (n + d.schema.hops) e

/-- **The count at the end of a chain is that at its start and the references followed between.** -/
theorem references_of_chain {c d : Call} {n : Nat} (h : rs.Chain c n d) :
    d.path.references = c.path.references + n := by
  induction h with
  | start => rfl
  | call _ hcall ih => rw [references_of_calls hcall, ih, Nat.add_assoc]

theorem greatestLimit_le_of_chain {c d : Call} {n : Nat} (h : rs.Chain c n d) :
    rs.greatestLimit d.schema ≤ rs.greatestLimit c.schema := by
  induction h with
  | start => exact Nat.le_refl _
  | call _ hcall ih => exact (greatestLimit_le_of_calls hcall).trans ih

/-- **No count passes both the one it started from and the greatest limit.** -/
theorem references_le_of_chain {c d : Call} {n : Nat} (h : rs.Chain c n d) :
    d.path.references ≤ max c.path.references (rs.greatestLimit c.schema) := by
  induction h with
  | start => exact Nat.le_max_left _ _
  | call hchain hcall ih =>
    have hlimit := greatestLimit_le_of_chain hchain
    have hhops := hops_le_of_calls hcall
    rw [references_of_calls hcall]
    omega

/-- **A reference is followed below its limit, whatever other limits there are**; otherwise, or when it leads nowhere,
it comes to one custom issue where it stands. -/
theorem check_reference (rs : Registries) (r : Reference) (v : Value) (path : Path) :
    rs.check (.reference r) v path =
      if path.references < r.limit then
        match rs.resolve r with
        | .ok s => rs.check s v path.followed
        | .error fault => .ready (.error ⟨[⟨path, .custom, fault.text⟩]⟩)
      else .ready (.error ⟨[⟨path, .custom, (ReferenceFault.tooDeep r.limit path).text⟩]⟩) := by
  rw [check_eq_answer]
  simp only [answer]
  by_cases h : path.references < r.limit
  · rw [if_neg (Nat.not_le_of_lt h), if_pos h]
    rfl
  · rw [if_pos (Nat.le_of_not_lt h), if_neg h]
    rfl

theorem references_lt_of_calls {r : Reference} {v : Value} {path : Path} {d : Call}
    (h : rs.Calls ⟨.reference r, v, path⟩ d) : path.references < r.limit := by
  cases h with
  | reference hlt _ => exact hlt

/-- **Validation ends, and counts its hops**, however references lead back to each other and whatever their limits.  No
chain of calls goes on for ever; validation is the one way to answer every call by the calls that it makes, and no call
depends on others than these.  At every call the count is that of the start and the references followed from there; a
reference is looked up exactly when the count is below its own limit, and otherwise comes to one custom issue; so no
count passes the start and the greatest limit, and counting one more never leaves a word that holds the limit. -/
theorem validation_ends_within_limits (rs : Registries) :
    (WellFounded fun d c => rs.Calls c d) ∧
    (∀ ask : Schema → Check, (∀ s v path, ask s v path = rs.answer ask s v path) ↔ ask = rs.check) ∧
    (∀ (ask ask' : Schema → Check) (c : Call),
      (∀ d, rs.Calls c d → ask d.schema d.value d.path = ask' d.schema d.value d.path) →
        rs.answer ask c.schema c.value c.path = rs.answer ask' c.schema c.value c.path) ∧
    (∀ (c d : Call) (followed : Nat), rs.Chain c followed d →
      d.path.references = c.path.references + followed ∧
        d.path.references ≤ max c.path.references (rs.greatestLimit c.schema)) ∧
    (∀ (r : Reference) (v : Value) (path : Path), rs.check (.reference r) v path =
      if path.references < r.limit then
        match rs.resolve r with
        | .ok s => rs.check s v path.followed
        | .error fault => .ready (.error ⟨[⟨path, .custom, fault.text⟩]⟩)
      else .ready (.error ⟨[⟨path, .custom, (ReferenceFault.tooDeep r.limit path).text⟩]⟩)) ∧
    (∀ (r : Reference) (v : Value) (path : Path) (d : Call), rs.Calls ⟨.reference r, v, path⟩ d →
      ∀ word, r.limit ≤ word → path.references + 1 ≤ word) := by
  refine ⟨rs.calls_wf, fun ask => ⟨eq_check_of_eq_answer, ?_⟩, fun _ _ _ h => answer_congr h, fun c d n h => ?_,
    rs.check_reference, fun r v path d h word hword => ?_⟩
  · rintro rfl
    exact rs.check_eq_answer
  · exact ⟨references_of_chain h, references_le_of_chain h⟩
  · exact (Nat.succ_le_of_lt (references_lt_of_calls h)).trans hword

end Registries
end Schemata
