import Schemata.Proofs.Origins
import Schemata.Proofs.Pending
/-!
# Silence — what fails says why

Arrays and objects take a failure that reports nothing for no failure at all (`Verdict.Silent`).  None of the library's
schemas brings one about: each raises an issue of its own or passes on what it was told, and a union that refuses was
refused by some candidate.  So as long as the checks of users are `Loud` every failure holds an issue, whichever way it
is asked for (`Outcome.Reports`), and an array that is accepted is whole (`Registries.failures_report`).
-/
namespace Schemata

variable {α : Type}

/-- A user's check that never fails without an issue; and any other node. -/
def Schema.Loud : Schema → Prop
  | .custom check => ∀ v path x, (check v path).Ends x → ¬ x.Silent
  | _ => True

theorem Report.hasIssues_of_not_silent {r : Report} (h : ¬ Verdict.Silent (.error r : Verdict α)) :
    r.hasIssues = true := by
  obtain ⟨is⟩ := r
  cases is with
  | nil => exact absurd rfl h
  | cons i is => rfl

/-- Issues gathered from reports of which one is not silent are not silent either. -/
theorem Verdict.not_silent_of_perm {issues : List Issue} {reports : List Report}
    (hperm : issues.Perm (reports.flatMap Report.issues)) {r : Report} (hr : r ∈ reports)
    (h : ¬ Verdict.Silent (.error r : Verdict α)) : ¬ Verdict.Silent (.error ⟨issues⟩ : Verdict α) := by
  intro hsilent
  obtain rfl : issues = [] := congrArg Report.issues (Except.error.inj hsilent)
  have hissues := Report.hasIssues_of_not_silent h
  rw [Report.hasIssues, List.flatMap_eq_nil_iff.1 (List.nil_perm.1 hperm) r hr] at hissues
  cases hissues

/-! ## The entry points -/

namespace Outcome

/-- **Whichever way it is asked for, a failure holds an issue.** -/
structure Reports (o : Outcome (Verdict α)) : Prop where
  settle : ∀ counters r, (o.settle counters).result = .error r → r.hasIssues = true
  parse : ∀ counters r, (o.parse counters).result = .error (.invalid r) → r.hasIssues = true
  safeParse : ∀ counters r, (o.safeParse counters).result = .error r → r.hasIssues = true
  parseAsync : ∀ counters r, (o.parseAsync counters).result = .error r → r.hasIssues = true
  safeParseAsync : ∀ counters r, (o.safeParseAsync counters).result = .error r → r.hasIssues = true

theorem result_safeParseAsync (o : Outcome (Verdict α)) (counters : Counters) :
    (o.safeParseAsync counters).result = (o.settle counters).result := by
  rw [safeParseAsync, Run.map, parseAsync]
  cases (o.settle counters).result <;> rfl

theorem reports_of_not_silent {o : Outcome (Verdict α)} (h : ∀ x, o.Ends x → ¬ x.Silent) : o.Reports := by
  have settled : ∀ counters r, (o.settle counters).result = .error r → r.hasIssues = true := fun counters r hr =>
    Report.hasIssues_of_not_silent (h _ (hr ▸ ends_settle o counters))
  -- a caller that does not wait is told what settling comes to, or that it must wait
  have now : ∀ counters, ((o.parse counters).result = .error .mustWait ∧
      (o.safeParse counters).result = .error ⟨[⟨.root, .custom, mustWaitText⟩]⟩) ∨
        (o.parse counters).result = (o.settle counters).result.mapError .invalid ∧
          (o.safeParse counters).result = (o.settle counters).result := by
    intro counters
    cases hl : (o.start counters).result with
    | pending w => exact .inl (parse_of_pending (by rw [hl]; rfl))
    | ready verdict =>
      obtain ⟨hparse, hsafe, hasync, -⟩ := parse_of_ready hl
      rw [parseAsync] at hasync
      exact .inr ⟨hasync ▸ hparse, hasync ▸ hsafe⟩
  refine ⟨settled, fun counters r hr => ?_, fun counters r hr => ?_, settled, fun counters r hr => ?_⟩
  · rcases now counters with ⟨hparse, -⟩ | ⟨hparse, -⟩
    · rw [hparse] at hr
      cases hr
    · rw [hparse] at hr
      cases hs : (o.settle counters).result with
      | ok a =>
        rw [hs] at hr
        cases hr
      | error s =>
        rw [hs] at hr
        obtain rfl := ParseError.invalid.inj (Except.error.inj hr)
        exact settled counters s hs
  · rcases now counters with ⟨-, hsafe⟩ | ⟨-, hsafe⟩
    · rw [hsafe] at hr
      obtain rfl := Except.error.inj hr
      rfl
    · exact settled counters r (hsafe ▸ hr)
  · exact settled counters r (result_safeParseAsync o counters ▸ hr)

/-- **Outcomes that settle without an issue are all outputs**, where none of them fails in silence. -/
theorem exists_outputs {os : List (Outcome (Verdict α))} {verdicts : List (Verdict α)}
    (loud : ∀ o ∈ os, ∀ x, o.Ends x → ¬ x.Silent) (h : List.Forall₂ Ends os verdicts)
    (hissues : ∀ x ∈ verdicts, x.issues = []) :
    ∃ outputs, verdicts = outputs.map .ok ∧ List.Forall₂ (fun o out => o.Ends (.ok out)) os outputs := by
  have hnone : ∀ x ∈ verdicts, ¬ x.Silent := fun x hx => by
    obtain ⟨o, ho, hox⟩ := exists_mem_of_forall₂ (List.Forall₂.flip h) hx
    exact loud o ho x hox
  have hok := (Verdict.eq_map_ok_iff verdicts).2 ((Verdict.forall_ok_iff hissues).2 hnone)
  rw [hok] at h
  exact ⟨_, hok, List.forall₂_map_right_iff.1 h⟩

end Outcome

/-! ## Arrays and objects -/

namespace Validator

/-- **An array hands out the outputs of its items**, where none of these fails in silence. -/
theorem outputs_of_ends_array {rules : Rules LengthRule} {item : Validator α}
    (loud : ∀ v path x, (item.run v path).Ends x → ¬ x.Silent) {v : Value} {path : Path} {as : List α}
    (h : ((array rules item).run v path).Ends (.ok as)) : ∃ items, v = .array items ∧
      rules.violations path items.length = [] ∧
        List.Forall₂ (fun o a => o.Ends (.ok a)) (items.mapIdx fun i u => item.run u (path.index i)) as := by
  cases v with
  | array items =>
    obtain ⟨verdicts, hjoin, hgather⟩ := (Outcome.ends_map _ _ _).1 h
    obtain ⟨hrules, hissues, has⟩ := (Verdict.gather_eq_ok_iff _ _ _).1 hgather.symm
    have hloud : ∀ o ∈ items.mapIdx fun i u => item.run u (path.index i), ∀ x, o.Ends x → ¬ x.Silent := by
      intro o ho
      obtain ⟨i, hi, rfl⟩ := List.mem_mapIdx.1 ho
      exact loud _ _
    obtain ⟨outputs, rfl, hall⟩ := Outcome.exists_outputs hloud (Outcome.ends_join hjoin) hissues
    obtain rfl : as = outputs := by simpa [List.filterMap_map, Function.comp_def, Verdict.output?] using has
    exact ⟨items, rfl, hrules, hall⟩
  | _ => cases (Outcome.ends_ready _ _).1 h

/-- **An object is put together of the outputs of its fields**, where none of these fails in silence. -/
theorem outputs_of_ends_object {shape : Shape Check}
    (loud : ∀ f ∈ shape.fields, ∀ v path x, (f.2 v path).Ends x → ¬ x.Silent) {v : Value} {path : Path}
    {out : Entries Value} (h : ((object shape).run v path).Ends (.ok out)) :
    ∃ entries outputs, v = .object entries ∧ shape.assemble path entries (outputs.map .ok) = .ok out ∧
      List.Forall₂ (fun f o => (f.2 ((Entries.get? entries f.1).getD .undefined) (path.field f.1)).Ends (.ok o))
        shape.fields outputs := by
  cases v with
  | object entries =>
    obtain ⟨verdicts, hjoin, hassemble⟩ := (Outcome.ends_map _ _ _).1 h
    have hissues := ((Shape.assemble_eq_ok_iff out).1 hassemble.symm).2.1
    have hloud : ∀ o ∈ shape.fieldOutcomes path entries, ∀ x, o.Ends x → ¬ x.Silent :=
      List.forall_mem_map.2 fun f hf => loud f hf _ _
    obtain ⟨outputs, rfl, hall⟩ := Outcome.exists_outputs hloud (Outcome.ends_join hjoin) hissues
    exact ⟨entries, outputs, rfl, hassemble.symm, List.forall₂_map_left_iff.1 hall⟩
  | _ => cases (Outcome.ends_ready _ _).1 h

end Validator

namespace Registries

variable {rs : Registries}

/-- **No call fails in silence**, unless a user's check does. -/
theorem not_silent_of_ends (c : Call) : (∀ t, rs.Reaches c.schema t → t.Loud) → ∀ {x : Verdict Value},
    (rs.validate c).Ends x → ¬ x.Silent := by
  induction c using rs.call_induction with
  | step c ih =>
    intro loud x hx
    have made : ∀ d y, (rs.plan c).Makes d → (rs.validate d).Ends y → ¬ y.Silent := fun d y hd hy =>
      ih d (calls_of_makes hd) (fun t ht => loud t (reaches_of_calls (calls_of_makes hd) ht)) hy
    have hsettles := settles_of_ends hx
    have hcontributes := rs.plan_contributes c
    cases hplan : rs.plan c <;> rw [hplan] at hsettles hcontributes made
    case leaf o =>
      rcases hcontributes with ⟨check, hschema, rfl⟩ | rfl | ⟨i, -, rfl⟩
      · exact loud (.custom check) (hschema ▸ .here c.schema) _ _ _ hsettles
      · obtain rfl := (Outcome.ends_ready _ _).1 hsettles
        nofun
      · obtain rfl := (Outcome.ends_ready _ _).1 hsettles
        exact Verdict.not_silent_single i
    case same d => exact made d x rfl hsettles
    case every calls decide =>
      obtain ⟨verdicts, -, rfl⟩ := hsettles
      obtain ⟨own, -, hdecide⟩ := hcontributes
      exact (hdecide verdicts).1
    case first candidates v path =>
      rcases hsettles with ⟨out, rfl, -⟩ | ⟨reports, issues, hreports, hperm, rfl⟩
      · nofun
      · -- the report of the first candidate is among those of all, and holds an issue
        obtain ⟨s, rest, rfl⟩ := List.exists_cons_of_ne_nil hcontributes.1
        obtain ⟨r, _, hr, -, rfl⟩ := List.forall₂_cons_left_iff.1 hreports
        exact Verdict.not_silent_of_perm hperm List.mem_cons_self (made _ _ ⟨s, List.mem_cons_self, rfl⟩ hr)
    case supplied supplier path call =>
      rcases hsettles with ⟨v, hv, hx⟩ | ⟨reason, rfl⟩
      · exact made _ x ⟨v, hv, rfl⟩ hx
      · exact Verdict.not_silent_single _
    case effect d step judge =>
      rcases hsettles with ⟨v, -, rfl⟩ | ⟨r, hr, rfl⟩
      · rcases hcontributes.2 v with ⟨out, hout⟩ | ⟨i, -, hjudge⟩
        · rw [hout]
          nofun
        · rw [hjudge]
          exact Verdict.not_silent_single i
      · exact made d _ rfl hr

/-- **An array settles to an array of outputs of its items**, each at its place, where none of them fails in silence. -/
theorem forall₂_of_ends_array {rules : Rules LengthRule} {item : Schema} {v w : Value} {path : Path}
    (loud : ∀ t, rs.Reaches item t → t.Loud) (h : (rs.validate ⟨.array rules item, v, path⟩).Ends (.ok w)) :
    ∃ items outputs, v = .array items ∧ w = .array outputs ∧ rules.violations path items.length = [] ∧
      List.Forall₂ (fun d out => (rs.validate d).Ends (.ok out)) (items.mapIdx fun i u => ⟨item, u, path.index i⟩)
        outputs := by
  rw [validate, check_eq, answer] at h
  obtain ⟨outputs, houtputs, rfl⟩ := (Validator.ends_check_ok _ v path w).1 h
  obtain ⟨items, rfl, hrules, hall⟩ :=
    Validator.outputs_of_ends_array (fun u q x => not_silent_of_ends ⟨item, u, q⟩ loud) houtputs
  refine ⟨items, outputs, rfl, congrArg Value.array (List.map_id outputs), hrules, ?_⟩
  exact forall₂_mapIdx_left_iff.2 (forall₂_mapIdx_left_iff.1 hall)

/-- **Failures are never empty.**  Where no check of a user's fails without an issue, every failure of a schema holds
one, at whatever place and whichever way it is asked for, by reference to a registered name too; so an array is accepted
only with as many items as it came with. -/
theorem failures_report {s : Schema} (loud : ∀ t, rs.Reaches s t → t.Loud) (v : Value) :
    (∀ path, (rs.check s v path).Reports) ∧
    (∀ h name o, rs.get? h name = some s → rs.validateNamed h name v = .ok o → o.Reports) ∧
    (∀ rules item path counters w, s = .array rules item → ((rs.check s v path).settle counters).result = .ok w →
      ∃ items outputs, v = .array items ∧ w = .array outputs ∧ outputs.length = items.length) := by
  have hreports : ∀ path, (rs.check s v path).Reports := fun path =>
    Outcome.reports_of_not_silent fun x hx => not_silent_of_ends ⟨s, v, path⟩ loud hx
  refine ⟨hreports, fun h name o hget ho => ?_, ?_⟩
  · rw [validateNamed, hget] at ho
    obtain rfl := Except.ok.inj ho
    exact hreports .root
  · rintro rules item path counters w rfl hw
    have hitem : ∀ t, rs.Reaches item t → t.Loud := fun t ht => loud t (.child (List.mem_singleton.2 rfl) ht)
    have hends : (rs.validate ⟨.array rules item, v, path⟩).Ends (.ok w) := hw ▸ Outcome.ends_settle _ counters
    obtain ⟨items, outputs, hv, hw, -, hall⟩ := forall₂_of_ends_array hitem hends
    exact ⟨items, outputs, hv, hw, by simpa using hall.length_eq.symm⟩

/-- Texts, or whatever a user takes, who takes nothing. -/
def textsOrNothing : Schema :=
  .array .empty (.union [.string .empty, .custom fun _ path => .failure (.custom path "no such word")])

theorem loud_textsOrNothing {t : Schema} (h : empty.Reaches textsOrNothing t) : t.Loud := by
  cases h with
  | here => trivial
  | child hc h =>
    obtain rfl := List.mem_singleton.1 hc
    cases h with
    | here => trivial
    | child hc h =>
      rcases List.mem_pair.1 hc with rfl | rfl
      · cases h with
        | here => trivial
        | child hc _ => cases hc
      · cases h with
        | here =>
          intro v path x hx
          rw [(Outcome.ends_ready _ _).1 hx]
          exact Verdict.not_silent_single _
        | child hc _ => cases hc

/-- A caller that does not wait is told what both candidates report of the one item that is no text; without it the
array is accepted whole. -/
theorem textsOrNothing_reports :
    (∃ r, ((empty.check textsOrNothing (.array [.string "a", .null]) .root).parse .fresh).result = .error (.invalid r) ∧
      r.size = 2 ∧ r.hasIssues = true) ∧
    ∃ outputs, ((empty.check textsOrNothing (.array [.string "a"]) .root).settle .fresh).result = .ok (.array outputs) ∧
      outputs.length = 1 := by
  refine ⟨⟨_, rfl, rfl, ?_⟩, ?_⟩
  · exact ((failures_report (fun t => loud_textsOrNothing) (.array [.string "a", .null])).1 .root).parse .fresh _ rfl
  · have haccepted : ((empty.check textsOrNothing (.array [.string "a"]) .root).settle .fresh).result =
        .ok (.array [.string "a"]) := rfl
    obtain ⟨items, outputs, hv, hw, hlength⟩ :=
      (failures_report (fun t => loud_textsOrNothing) (.array [.string "a"])).2.2 _ _ .root .fresh _ rfl haccepted
    obtain rfl := Value.array.inj hv
    exact ⟨outputs, hw ▸ haccepted, hlength⟩

end Registries
end Schemata
