import Schemata.Proofs.Gathering
import Schemata.Proofs.Settlement
import Schemata.Proofs.Timing
/-!
# Members — what an object comes to, entry by entry

An object starts all its fields, each once and in order, and waits for the pending ones together (`Outcome.settle_join`).
What they come to decides: with any issue, of a field or of an unknown key, the issues are all there is, and without one
the output is written in the order of declaration, with undeclared entries behind.  In such an output every name stands
once (`Shape.nodup_keys_output`), and each declared name can be looked up again (`Shape.getD_get?_output`).
-/
namespace Schemata

variable {α β : Type}

/-! ## Outcomes that are joined -/

namespace Turns

theorem await_byRound_map (f : α → β) : ∀ (t : Turns α) (counters : Counters),
    (t.map f).byRound.await counters = (t.byRound.await counters).map f
  | .done _, _ => rfl
  | .record e rest, counters => congrArg (Run.after e) (await_byRound_map f rest counters)
  | .draw c rest, counters => await_byRound_map f (rest (counters c)) (counters.advance c)
  | .polled _ rest, counters => await_byRound_map f rest counters
  | .round rest, counters => await_byRound_map f rest counters

theorem await_byRound_ofList_done (counters : Counters) : ∀ as : List α,
    (ofList (as.map .done)).byRound.await counters = ⟨as, [], counters⟩
  | [] => rfl
  | a :: as => by
    have ih := await_byRound_ofList_done counters as
    rw [List.map_cons, ofList, before, map, byRound, await_byRound_map, await_byRound_map, ih]
    rfl

end Turns

namespace Outcome

/-- **Joined outcomes are pending exactly when one of them is.** -/
theorem isPending_start_join (os : List (Outcome α)) (counters : Counters) :
    ((join os).start counters).result.isPending = true ↔ ∃ l ∈ (startAll os counters).result, l.isPending = true := by
  rw [start_join_eq]
  rcases Launch.join_cases (startAll os counters).result with ⟨as, has, hjoin⟩ | ⟨hp, hjoin⟩
  · rw [hjoin, has]
    simp [start, Run.afterAll, Launch.isPending]
  · rw [hjoin]
    exact ⟨fun _ => hp, fun _ => rfl⟩

/-- **Joined outcomes are started in order and then awaited together.** -/
theorem settle_join (os : List (Outcome α)) (counters : Counters) :
    (join os).settle counters = ((Deferred.all ((startAll os counters).result.map Launch.toDeferred)).await
      (startAll os counters).counters).afterAll (startAll os counters).log := by
  rw [settle_eq_await, start_join_eq]
  rcases Launch.join_cases (startAll os counters).result with ⟨as, has, hjoin⟩ | ⟨-, hjoin⟩
  · have hdone : (as.map Launch.ready).map Launch.toDeferred = as.map Deferred.done := by simp [Launch.toDeferred]
    rw [hjoin, has, hdone, Deferred.await_all, Turns.await_byRound_ofList_done]
    simp [start, Run.afterAll, Launch.await]
  · rw [hjoin]
    simp [start, Run.afterAll, Launch.await]

theorem isPending_start_map (f : α → β) (o : Outcome α) (counters : Counters) :
    ((o.map f).start counters).result.isPending = (o.start counters).result.isPending := by
  rw [start_map_eq, Run.map]
  cases (o.start counters).result <;> rfl

end Outcome

/-! ## Names in an output -/

namespace Entries

theorem get?_append (es more : Entries α) (key : String) :
    get? (es ++ more) key = (es.get? key).or (more.get? key) := by
  induction es with
  | nil => rfl
  | cons e es ih =>
    obtain ⟨k, a⟩ := e
    by_cases h : k = key
    · simp [get?, h]
    · simpa [get?, h] using ih

theorem get?_of_mem : ∀ {es : Entries α} {key : String} {a : α}, es.keys.Nodup → (key, a) ∈ es → es.get? key = some a
  | (k, b) :: rest, key, a, hnodup, h => by
    obtain ⟨hk, hrest⟩ := List.nodup_cons.1 hnodup
    rcases List.mem_cons.1 h with heq | h
    · obtain ⟨rfl, rfl⟩ := Prod.mk.inj heq
      exact if_pos rfl
    · have hne : k ≠ key := fun hkey => hk (hkey ▸ List.mem_map.2 ⟨_, h, rfl⟩)
      rw [get?, if_neg hne]
      exact get?_of_mem hrest h

end Entries

namespace Shape

variable {s : Shape Check} {path : Path} {entries : Entries Value} {verdicts : List (Verdict Value)}

theorem keys_declared_sublist : ∀ (keys : List String) (verdicts : List (Verdict Value)),
    (Entries.keys ((keys.zip verdicts).filterMap outputField?)).Sublist keys
  | [], _ => List.Sublist.refl _
  | _ :: _, [] => List.nil_sublist _
  | key :: keys, x :: verdicts => by
    have ih := keys_declared_sublist keys verdicts
    rw [List.zip_cons_cons]
    cases hout : outputField? (key, x) with
    | none =>
      rw [List.filterMap_cons_none hout]
      exact ih.cons key
    | some e =>
      obtain ⟨name, v⟩ := e
      obtain ⟨rfl, -, -⟩ := outputField?_eq_some_iff.1 hout
      rw [List.filterMap_cons_some hout]
      exact ih.cons_cons key

theorem carriedOver_sublist (s : Shape Check) (entries : Entries Value) : (s.carriedOver entries).Sublist entries := by
  unfold carriedOver
  split
  · exact List.filter_sublist
  · exact List.nil_sublist _

/-- **Every name stands once in an output**, as in the object it comes from. -/
theorem nodup_keys_output (hkeys : s.keys.Nodup) (hentries : (Entries.keys entries).Nodup) :
    (Entries.keys ((s.keys.zip verdicts).filterMap outputField? ++ s.carriedOver entries)).Nodup := by
  have hdeclared := keys_declared_sublist s.keys verdicts
  have hcarried := ((s.carriedOver_sublist entries).map Prod.fst).nodup hentries
  rw [Entries.keys, List.map_append, List.nodup_append]
  refine ⟨hdeclared.nodup hkeys, hcarried, fun name hname other hother => ?_⟩
  rintro rfl
  obtain ⟨e, he, rfl⟩ := List.mem_map.1 hother
  exact not_mem_keys_of_mem_carriedOver he (hdeclared.subset hname)

/-- **A declared name is looked up in an output as what its field came to**; what is missing is undefined. -/
theorem getD_get?_output (hkeys : s.keys.Nodup) (hlen : s.keys.length = verdicts.length) {name : String} {v : Value}
    (hv : (name, .ok v) ∈ s.keys.zip verdicts) :
    (Entries.get? ((s.keys.zip verdicts).filterMap outputField? ++ s.carriedOver entries) name).getD .undefined = v := by
  by_cases hundefined : v = .undefined
  · subst hundefined
    have hnot : name ∉ Entries.keys ((s.keys.zip verdicts).filterMap outputField? ++ s.carriedOver entries) := by
      rw [mem_keys_output_iff hkeys hlen hv]
      rintro ⟨w, hw, hne⟩
      exact hne (Except.ok.inj hw).symm
    rw [(Entries.get?_eq_none_iff _ name).2 hnot]
    rfl
  · have hmem : (name, v) ∈ (s.keys.zip verdicts).filterMap outputField? :=
      List.mem_filterMap.2 ⟨_, hv, outputField?_eq_some_iff.2 ⟨rfl, rfl, hundefined⟩⟩
    rw [Entries.get?_append, Entries.get?_of_mem ((keys_declared_sublist s.keys verdicts).nodup hkeys) hmem]
    rfl

/-- Of an output only what was carried over is undeclared. -/
theorem undeclared_output (s : Shape Check) (entries : Entries Value) (verdicts : List (Verdict Value)) :
    s.undeclared ((s.keys.zip verdicts).filterMap outputField? ++ s.carriedOver entries) = s.carriedOver entries := by
  have hdeclared : ∀ e ∈ (s.keys.zip verdicts).filterMap outputField?, ¬ decide (e.1 ∉ s.keys) = true := fun e he =>
    fun h => of_decide_eq_true h ((keys_declared_sublist s.keys verdicts).subset (List.mem_map_of_mem he))
  have hcarried : ∀ e ∈ s.carriedOver entries, decide (e.1 ∉ s.keys) = true := fun e he =>
    decide_eq_true (not_mem_keys_of_mem_carriedOver he)
  rw [undeclared, Entries.restrict, List.filter_append, List.filter_eq_nil_iff.2 hdeclared,
    List.filter_eq_self.2 hcarried, List.nil_append]

theorem carriedOver_output (s : Shape Check) (entries : Entries Value) (verdicts : List (Verdict Value)) :
    s.carriedOver ((s.keys.zip verdicts).filterMap outputField? ++ s.carriedOver entries) = s.carriedOver entries := by
  cases hmode : s.unknownKeys with
  | passthrough =>
    have hall : ∀ es, s.carriedOver es = s.undeclared es := fun es => by simp only [carriedOver, hmode]
    rw [hall (_ ++ _), undeclared_output]
  | _ => simp only [carriedOver, hmode]

theorem unknownIssues_output (s : Shape Check) (path : Path) (entries : Entries Value)
    (verdicts : List (Verdict Value)) :
    s.unknownIssues path ((s.keys.zip verdicts).filterMap outputField? ++ s.carriedOver entries) = [] := by
  unfold unknownIssues
  rw [undeclared_output]
  cases hmode : s.unknownKeys <;> simp [carriedOver, hmode, Entries.keys]

/-- **An output is written again from the same verdicts.** -/
theorem assemble_output (s : Shape Check) (path : Path) (entries : Entries Value)
    (hissues : ∀ x ∈ verdicts, x.issues = []) :
    s.assemble path ((s.keys.zip verdicts).filterMap outputField? ++ s.carriedOver entries) verdicts =
      .ok ((s.keys.zip verdicts).filterMap outputField? ++ s.carriedOver entries) := by
  refine (assemble_eq_ok_iff _).2 ⟨s.unknownIssues_output path entries verdicts, hissues, ?_⟩
  rw [carriedOver_output]

theorem assemble_of_ne_nil (h : verdicts.flatMap Verdict.issues ++ s.unknownIssues path entries ≠ []) :
    s.assemble path entries verdicts = .error ⟨verdicts.flatMap Verdict.issues ++ s.unknownIssues path entries⟩ := by
  unfold assemble
  split
  · contradiction
  · rfl

theorem assemble_of_nil (h : verdicts.flatMap Verdict.issues ++ s.unknownIssues path entries = []) :
    s.assemble path entries verdicts =
      .ok ((s.keys.zip verdicts).filterMap outputField? ++ s.carriedOver entries) := by
  unfold assemble
  rw [h]

theorem outputField?_eq (f : String × Verdict Value) :
    outputField? f = (f.2.output?.filter fun v => !v.isUndefined).map fun v => (f.1, v) := by
  obtain ⟨name, x⟩ := f
  cases x with
  | error r => rfl
  | ok v => cases v <;> rfl

end Shape

namespace Validator

/-- **What an object comes to.**  `asked` is what the fields come to when they are started one after the other, each on
the entry under its name at its place, and `joint` how they go when they are awaited together; fields that cannot come to
anything else come to that.  The object is pending exactly when a field is.  Any issue, of the fields in the order of
declaration and then of each undeclared key in strict mode, and the issues are all that is reported.  Without one the
output holds the declared names whose output is not undefined, in the order of declaration, and in passthrough mode the
undeclared entries after them, as they came; no name stands there twice. -/
theorem object_exact (s : Shape Check) (entries : Entries Value) (path : Path) (counters : Counters) :
    let outcomes := s.fields.map fun f => f.2 ((Entries.get? entries f.1).getD .undefined) (path.field f.1)
    let asked := Outcome.startAll outcomes counters
    let joint := (Deferred.all (asked.result.map Launch.toDeferred)).await asked.counters
    let launched := ((Validator.object s).run (.object entries) path).start counters
    let settled := ((Validator.object s).run (.object entries) path).settle counters
    let undeclared := entries.filter fun e => e.1 ∉ s.keys
    let unknown : List Issue := if s.unknownKeys = .strict then undeclared.map fun e =>
      ⟨path.field e.1, .unrecognizedKeys, "unrecognized key '" ++ e.1 ++ "'"⟩ else []
    let found := joint.result.flatMap Verdict.issues ++ unknown
    let declared := (s.keys.zip joint.result).filterMap fun f =>
      (f.2.output?.filter fun v => !v.isUndefined).map fun v => (f.1, v)
    let out := declared ++ if s.unknownKeys = .passthrough then undeclared else []
    (launched.log = asked.log ∧ launched.counters = asked.counters ∧
      (launched.result.isPending = true ↔ ∃ l ∈ asked.result, l.isPending = true)) ∧
    (settled.log = asked.log ++ joint.log ∧
      Deferred.RunTogether (asked.result.map Launch.toDeferred) joint.log joint.result ∧
      ∀ verdicts, List.Forall₂ Outcome.Certain outcomes verdicts → joint.result = verdicts) ∧
    (found ≠ [] → settled.result = .error ⟨found⟩) ∧
    (found = [] → settled.result = .ok out) ∧
    (s.keys.Nodup → (Entries.keys entries).Nodup → (Entries.keys out).Nodup) := by
  intro outcomes asked joint launched settled undeclared unknown found declared out
  have hunknown : s.unknownIssues path entries = unknown := by
    unfold Shape.unknownIssues
    cases hmode : s.unknownKeys <;> simp [unknown, hmode, Entries.keys, Shape.undeclared, Entries.restrict,
      undeclared, unrecognizedKey]
  have hout : (s.keys.zip joint.result).filterMap outputField? ++ s.carriedOver entries = out := by
    rw [funext Shape.outputField?_eq]
    cases hmode : s.unknownKeys <;> simp [out, hmode, Shape.carriedOver, Shape.undeclared, Entries.restrict,
      undeclared, declared]
  have hrun : (Validator.object s).run (.object entries) path = (Outcome.join outcomes).map (s.assemble path entries) := rfl
  have hlog : launched.log = asked.log :=
    (Outcome.start_map _ _ _).1.trans (Outcome.start_join outcomes counters).1
  have hcounters : launched.counters = asked.counters :=
    (Outcome.start_map _ _ _).2.trans (Outcome.start_join outcomes counters).2
  have hpending : launched.result.isPending = true ↔ ∃ l ∈ asked.result, l.isPending = true := by
    rw [← Outcome.isPending_start_join outcomes counters,
      ← Outcome.isPending_start_map (s.assemble path entries) (Outcome.join outcomes) counters, ← hrun]
  have hjoined : (Outcome.join outcomes).settle counters = joint.afterAll asked.log :=
    Outcome.settle_join outcomes counters
  have hsettled : settled = (joint.afterAll asked.log).map (s.assemble path entries) :=
    (Outcome.settle_map _ _ _).trans (congrArg (Run.map _) hjoined)
  have hresult : settled.result = s.assemble path entries joint.result := congrArg Run.result hsettled
  have htogether : Deferred.RunTogether (asked.result.map Launch.toDeferred) joint.log joint.result :=
    Deferred.runs_all (Deferred.runs_await _ _)
  refine ⟨⟨hlog, hcounters, hpending⟩, ⟨congrArg Run.log hsettled, htogether, fun verdicts hcertain => ?_⟩, fun hne => ?_,
    fun hnil => ?_, fun hkeys hentries => ?_⟩
  · have hcertain := (Outcome.Certain.join hcertain).settle counters
    rw [hjoined] at hcertain
    exact hcertain
  · rw [hresult, Shape.assemble_of_ne_nil (hunknown ▸ hne), hunknown]
  · rw [hresult, Shape.assemble_of_nil (hunknown ▸ hnil), hout]
  · rw [← hout]
    exact Shape.nodup_keys_output hkeys hentries

/-- A field that answers late and one whose entry is missing, in an object with an entry that no field declares: it is
carried over, or it is the one issue. -/
theorem object_of_late_field :
    let late : Check := fun v _ => .pending (.pause (.done (.ok v)))
    let kept : Check := fun v _ => .success v
    let carrying : Shape Check := ⟨[("b", late), ("a", kept)], .passthrough, none⟩
    let strict : Shape Check := carrying.withUnknownKeys .strict
    let entries : Entries Value := [("c", .undefined), ("b", .null)]
    let settled := fun s => (((Validator.object s).run (.object entries) .root).settle .fresh).result
    List.Forall₂ Outcome.Certain (strict.fieldOutcomes .root entries) [.ok .null, .ok .undefined] ∧
      carrying.keys.Nodup ∧ (Entries.keys entries).Nodup ∧
      settled carrying = .ok [("b", .null), ("c", .undefined)] ∧
      (Entries.keys [("b", Value.null), ("c", .undefined)]).Nodup ∧
      settled strict = .error ⟨[⟨Path.root.field "c", .unrecognizedKeys, "unrecognized key 'c'"⟩]⟩ := by
  intro late kept carrying strict entries settled
  have hcertain : List.Forall₂ Outcome.Certain (strict.fieldOutcomes .root entries) [.ok .null, .ok .undefined] :=
    .cons (fun x hx => (Deferred.ends_done _ x).1 hx) (.cons (Outcome.certain_ready _) .nil)
  have hkeys : carrying.keys.Nodup := by decide
  have hentries : (Entries.keys entries).Nodup := by decide
  obtain ⟨-, -, -, haccepted, hnodup⟩ := object_exact carrying entries .root .fresh
  obtain ⟨-, ⟨-, -, hfields⟩, hrefused, -⟩ := object_exact strict entries .root .fresh
  have hjoint := hfields _ hcertain
  refine ⟨hcertain, hkeys, hentries, haccepted rfl, hnodup hkeys hentries, ?_⟩
  rw [hjoint] at hrefused
  exact hrefused (List.cons_ne_nil _ _)

end Validator
end Schemata
