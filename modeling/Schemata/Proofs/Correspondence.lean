import Schemata.Proofs.Likeness
import Schemata.Proofs.Plans
/-!
# Correspondence — the same validation seen at two places

Two validations often differ in nothing but where they stand, or in what stands at their references.  A `Correspondence`
says how the places of the one stand to those of the other, and their issues with them.  Where two schemas have the same
node and calls that correspond come to outcomes that are alike, the whole is alike (`Plan.Matches.alike`,
`Registries.matches_of_sameNode`): one law for every kind of schema, to be used by induction on the calls.
-/
namespace Schemata

variable {α β : Type}

/-! ## Verdicts -/

namespace Verdict

/-- The same output, or reports whose issues are related one by one. -/
def Related (issue : Issue → Issue → Prop) : Verdict α → Verdict α → Prop
  | .ok a, .ok b => a = b
  | .error r, .error s => List.Forall₂ issue r.issues s.issues
  | _, _ => False

variable {issue : Issue → Issue → Prop}

namespace Related

theorem issues {x y : Verdict α} (h : x.Related issue y) : List.Forall₂ issue x.issues y.issues := by
  cases x with
  | ok a =>
    cases y with
    | ok b => exact .nil
    | error s => exact h.elim
  | error r =>
    cases y with
    | ok b => exact h.elim
    | error s => exact h

theorem output? {x y : Verdict α} (h : x.Related issue y) : x.output? = y.output? := by
  cases x with
  | ok a =>
    cases y with
    | ok b => exact congrArg some h
    | error s => exact h.elim
  | error r =>
    cases y with
    | ok b => exact h.elim
    | error s => rfl

theorem outputField? {x y : Verdict Value} (h : x.Related issue y) (name : String) :
    Schemata.outputField? (name, x) = Schemata.outputField? (name, y) := by
  cases x with
  | ok a =>
    cases y with
    | ok b => rw [show a = b from h]
    | error s => exact h.elim
  | error r =>
    cases y with
    | ok b => exact h.elim
    | error s => rfl

theorem map (f : α → β) {x y : Verdict α} (h : x.Related issue y) : (x.map f).Related issue (y.map f) := by
  cases x with
  | ok a =>
    cases y with
    | ok b => exact congrArg f h
    | error s => exact h.elim
  | error r =>
    cases y with
    | ok b => exact h.elim
    | error s => exact h

/-- A report of related issues, or the same output where there are none. -/
theorem of_issues {out : α} : ∀ {is is' : List Issue}, List.Forall₂ issue is is' →
    Related issue (match is with | [] => (.ok out : Verdict α) | issues => .error ⟨issues⟩)
      (match is' with | [] => .ok out | issues => .error ⟨issues⟩)
  | _, _, .nil => rfl
  | _, _, .cons h hs => List.Forall₂.cons h hs

end Related

theorem flatMap_issues_related {xs ys : List (Verdict α)} (h : List.Forall₂ (Related issue) xs ys) :
    List.Forall₂ issue (xs.flatMap issues) (ys.flatMap issues) := by
  induction h with
  | nil => exact .nil
  | cons h _ ih => exact List.rel_append h.issues ih

theorem gather_related {before before' : List Issue} {xs ys : List (Verdict α)}
    (hbefore : List.Forall₂ issue before before') (h : List.Forall₂ (Related issue) xs ys) :
    (gather before xs).Related issue (gather before' ys) := by
  have houtputs : xs.filterMap output? = ys.filterMap output? := by
    induction h with
    | nil => rfl
    | cons h _ ih => rw [List.filterMap_cons, List.filterMap_cons, h.output?, ih]
  have hissues : List.Forall₂ issue (allIssues before xs) (allIssues before' ys) :=
    List.rel_append hbefore (flatMap_issues_related h)
  unfold gather
  rw [houtputs]
  exact Related.of_issues hissues

theorem firstOutput_related {refused refused' : Report} (hrefused : List.Forall₂ issue refused.issues refused'.issues)
    {xs ys : List (Verdict α)} (h : List.Forall₂ (Related issue) xs ys) :
    (firstOutput refused xs).Related issue (firstOutput refused' ys) := by
  induction h generalizing refused refused' with
  | nil => exact hrefused
  | @cons x y _ _ hxy _ ih =>
    cases x with
    | ok a =>
      cases y with
      | ok b => exact hxy
      | error s => exact hxy.elim
    | error r =>
      cases y with
      | ok b => exact hxy.elim
      | error s => exact ih (List.rel_append hrefused hxy)

end Verdict

theorem Shape.assemble_related {issue : Issue → Issue → Prop} {s t : Shape Check} {path q : Path}
    {entries : Entries Value}
    (hkeys : s.keys = t.keys) (hmode : s.unknownKeys = t.unknownKeys)
    (hunknown : List.Forall₂ issue (s.unknownIssues path entries) (t.unknownIssues q entries))
    {xs ys : List (Verdict Value)} (h : List.Forall₂ (Verdict.Related issue) xs ys) :
    (s.assemble path entries xs).Related issue (t.assemble q entries ys) := by
  have houtputs : ∀ names : List String,
      (names.zip xs).filterMap outputField? = (names.zip ys).filterMap outputField? := by
    induction h with
    | nil => exact fun names => rfl
    | cons h _ ih =>
      intro names
      cases names with
      | nil => rfl
      | cons name names =>
        rw [List.zip_cons_cons, List.zip_cons_cons, List.filterMap_cons, List.filterMap_cons, h.outputField?, ih]
  have hcarried : s.carriedOver entries = t.carriedOver entries := by
    simp only [carriedOver, undeclared, hkeys, hmode]
  have hissues := List.rel_append (Verdict.flatMap_issues_related h) hunknown
  unfold assemble
  rw [houtputs, hkeys, hcarried]
  exact Verdict.Related.of_issues hissues

/-! ## Outcomes -/

namespace Outcome.Alike

variable {issue : Issue → Issue → Prop}

theorem mapSuccess (f : α → β) {o o' : Outcome (Verdict α)} (h : o.Alike (Verdict.Related issue) o') :
    (o.mapSuccess f).Alike (Verdict.Related issue) (o'.mapSuccess f) := h.map fun _ _ hxy => hxy.map f

theorem andThen {o o' : Outcome (Verdict α)} {f f' : α → Outcome (Verdict β)} (h : o.Alike (Verdict.Related issue) o')
    (hf : ∀ a, (f a).Alike (Verdict.Related issue) (f' a)) :
    (o.andThen f).Alike (Verdict.Related issue) (o'.andThen f') := by
  refine h.bind fun x y hxy => ?_
  cases x with
  | ok a =>
    cases y with
    | ok b =>
      obtain rfl : a = b := hxy
      exact hf a
    | error s => exact hxy.elim
  | error r =>
    cases y with
    | ok b => exact hxy.elim
    | error s => exact .ready hxy

/-- **Candidates that are alike one by one are alike when they are asked in order.** -/
theorem scanCandidates {v w : Value} {path q : Path} {cs cs' : List Check}
    (h : List.Forall₂ (fun c c' => (c v path).Alike (Verdict.Related issue) (c' w q)) cs cs') :
    ∀ {refused refused' : Report}, List.Forall₂ issue refused.issues refused'.issues →
      ∀ {waiting waiting' : List (Deferred (Verdict Value))},
        List.Forall₂ (fun u u' => u.Alike (Verdict.Related issue) u') waiting waiting' →
          (Schemata.scanCandidates v path refused waiting cs).Alike (Verdict.Related issue)
            (Schemata.scanCandidates w q refused' waiting' cs') := by
  induction h with
  | nil =>
    intro refused refused' hrefused waiting waiting' hwaiting
    cases hwaiting with
    | nil => exact .ready hrefused
    | cons hw hws =>
      exact .pending ((Deferred.Alike.all (.cons hw hws)).map fun _ _ h => Verdict.firstOutput_related hrefused h)
  | cons hc _ ih =>
    intro refused refused' hrefused waiting waiting' hwaiting
    refine hc.launch.bind fun l l' hl => ?_
    cases hl with
    | pending hw => exact ih hrefused (List.rel_append hwaiting (.cons hw .nil))
    | @ready x y hxy =>
      cases x with
      | ok a =>
        cases y with
        | ok b => exact .ready hxy
        | error s => exact hxy.elim
      | error r =>
        cases y with
        | ok b => exact hxy.elim
        | error s => exact ih (List.rel_append hrefused hxy) hwaiting

end Outcome.Alike

theorem Supplier.call_bind_alike {R : α → β → Prop} {s : Supplier} {f : Except String Value → Outcome α}
    {f' : Except String Value → Outcome β} (hok : ∀ v, s.Gives v → (f (.ok v)).Alike R (f' (.ok v)))
    (herror : ∀ reason, (f (.error reason)).Alike R (f' (.error reason))) :
    (s.call.bind f).Alike R (s.call.bind f') := by
  have key : ∀ answer : Except String Value, (∀ v, answer = .ok v → s.Gives v) →
      ((s.step.call answer).bind f).Alike R ((s.step.call answer).bind f') := by
    intro answer hgives
    refine (Outcome.Alike.call s.step (R := fun a b => a = answer ∧ b = answer) ⟨rfl, rfl⟩).bind ?_
    rintro a b ⟨ha, hb⟩
    rw [ha, hb]
    cases answer with
    | ok v => exact hok v (hgives v rfl)
    | error reason => exact herror reason
  obtain ⟨source, step⟩ := s
  cases source with
  | given answer => exact key answer fun v hv => hv
  | counted counter start =>
    exact .draw counter fun n => key (.ok (.ofInt (start + n))) fun v hv => ⟨n, (Except.ok.inj hv).symm⟩

/-! ## Places -/

/-- How the places of one validation stand to those of another, and the issues found there. -/
structure Correspondence where
  place : Path → Path → Prop
  issue : Issue → Issue → Prop
  place_child : ∀ {path q : Path}, place path q → ∀ s : Segment, place (path.child s) (q.child s)
  issue_mk : ∀ {path q : Path}, place path q → ∀ (code : Code) (message : String),
    issue ⟨path, code, message⟩ ⟨q, code, message⟩

namespace Correspondence

variable (K : Correspondence)

/-- Places and issues stand for themselves. -/
def identity : Correspondence := ⟨Eq, Eq, fun h _ => h ▸ rfl, fun h _ _ => h ▸ rfl⟩

/-- Places are the same however many references were followed to reach them. -/
def samePlace : Correspondence where
  place path q := path.segments = q.segments
  issue i j := i.content = j.content
  place_child h s := by simp only [Path.segments_child, h]
  issue_mk h code message := by simp only [Issue.content, h]

/-- Outcomes are alike whose verdicts correspond. -/
def Alike (o o' : Outcome (Verdict Value)) : Prop := o.Alike (Verdict.Related K.issue) o'

variable {K} {path q : Path}

theorem related_single (h : K.place path q) (code : Code) (message : String) :
    Verdict.Related K.issue (α := α) (.error (.single ⟨path, code, message⟩)) (.error (.single ⟨q, code, message⟩)) :=
  .cons (K.issue_mk h code message) .nil

theorem mismatch_alike (h : K.place path q) (code : Code) (expected : String) (v : Value) (message : Option String) :
    (mismatch path code expected v message : Outcome (Verdict α)).Alike (Verdict.Related K.issue)
      (mismatch q code expected v message) := .ready (related_single h code _)

theorem violations_related {κ σ : Type} [Rule κ σ] (rules : Rules κ) (h : K.place path q) (x : σ) :
    List.Forall₂ K.issue (rules.violations path x) (rules.violations q x) := by
  unfold Rules.violations
  induction rules.constraints with
  | nil => exact .nil
  | cons c cs ih =>
    rw [List.filterMap_cons, List.filterMap_cons, Rules.issue?, Rules.issue?]
    cases Rule.holds c.rule x with
    | true => exact ih
    | false => exact .cons (K.issue_mk h _ _) ih

theorem firstViolation_related {κ σ : Type} [Rule κ σ] (rules : Rules κ) (h : K.place path q) (x : σ) :
    (rules.firstViolation path x).Related K.issue (rules.firstViolation q x) := by
  have hissues := violations_related rules h x
  unfold Rules.firstViolation
  revert hissues
  generalize rules.violations path x = is, rules.violations q x = is'
  rintro (_ | ⟨hi, -⟩)
  · rfl
  · exact .cons hi .nil

theorem unknownIssues_related {s t : Shape Check} (hkeys : s.keys = t.keys) (hmode : s.unknownKeys = t.unknownKeys)
    (h : K.place path q) (entries : Entries Value) :
    List.Forall₂ K.issue (s.unknownIssues path entries) (t.unknownIssues q entries) := by
  simp only [Shape.unknownIssues, Shape.undeclared, hkeys, hmode]
  split
  · rw [List.forall₂_map_left_iff, List.forall₂_map_right_iff]
    exact List.forall₂_same.2 fun key _ => K.issue_mk (K.place_child h _) _ _
  · exact .nil

theorem string_alike (rules : Rules TextRule) (h : K.place path q) (v : Value) :
    K.Alike ((Validator.string rules).check v path) ((Validator.string rules).check v q) := by
  refine Outcome.Alike.mapSuccess _ ?_
  cases v with
  | string s => exact .ready (firstViolation_related rules h s)
  | _ => exact mismatch_alike h _ _ _ _

theorem number_alike (rules : Rules NumericRule) (h : K.place path q) (v : Value) :
    K.Alike ((Validator.number rules).check v path) ((Validator.number rules).check v q) := by
  refine Outcome.Alike.mapSuccess _ ?_
  cases v with
  | number x =>
    simp only [Validator.number]
    split
    · exact mismatch_alike h _ _ _ _
    · exact .ready (firstViolation_related rules h x)
  | _ => exact mismatch_alike h _ _ _ _

theorem boolean_alike (typeMessage : Option String) (h : K.place path q) (v : Value) :
    K.Alike ((Validator.boolean typeMessage).check v path) ((Validator.boolean typeMessage).check v q) := by
  refine Outcome.Alike.mapSuccess _ ?_
  cases v with
  | bool b => exact .ready rfl
  | _ => exact mismatch_alike h _ _ _ _

theorem enumeration_alike (options : List String) (message : Option String) (h : K.place path q) (v : Value) :
    K.Alike ((Validator.enumeration options message).check v path)
      ((Validator.enumeration options message).check v q) := by
  refine Outcome.Alike.mapSuccess _ ?_
  cases v with
  | string s =>
    simp only [Validator.enumeration]
    split
    · exact .ready rfl
    · exact .ready (related_single h _ _)
  | _ => exact .ready (related_single h _ _)

theorem refuse_alike (h : K.place path q) (code : Code) (message : String) :
    K.Alike (.failure (.single ⟨path, code, message⟩)) (.failure (.single ⟨q, code, message⟩)) :=
  .ready (related_single h code message)

end Correspondence

/-! ## Plans -/

/-- Two ways that are the same but for their calls, which are related by `A`, and for the places of their issues. -/
inductive Plan.Matches (K : Correspondence) (A : Call → Call → Prop) : Plan → Plan → Prop where
  | leaf {o o' : Outcome (Verdict Value)} : K.Alike o o' → Matches K A (.leaf o) (.leaf o')
  | same {c c' : Call} : A c c' → Matches K A (.same c) (.same c')
  | every {calls calls' : List Call} {decide decide' : List (Verdict Value) → Verdict Value} :
      List.Forall₂ A calls calls' →
      (∀ xs ys, List.Forall₂ (Verdict.Related K.issue) xs ys → (decide xs).Related K.issue (decide' ys)) →
      Matches K A (.every calls decide) (.every calls' decide')
  | first {candidates candidates' : List Schema} {v : Value} {path q : Path} :
      List.Forall₂ (fun s s' => A ⟨s, v, path⟩ ⟨s', v, q⟩) candidates candidates' →
      Matches K A (.first candidates v path) (.first candidates' v q)
  | supplied {supplier : Supplier} {path q : Path} {call call' : Value → Call} : K.place path q →
      (∀ v, supplier.Gives v → A (call v) (call' v)) →
      Matches K A (.supplied supplier path call) (.supplied supplier q call')
  | effect {c c' : Call} {step : Step} {judge judge' : Value → Verdict Value} : A c c' →
      (∀ v, (judge v).Related K.issue (judge' v)) → Matches K A (.effect c step judge) (.effect c' step judge')

/-- **Where related calls come to outcomes that are alike, so do matching ways.** -/
theorem Plan.Matches.alike {K : Correspondence} {A : Call → Call → Prop} {ask ask' : Call → Outcome (Verdict Value)}
    (hask : ∀ c c', A c c' → K.Alike (ask c) (ask' c')) {p p' : Plan} (h : p.Matches K A p') :
    K.Alike (p.outcome ask) (p'.outcome ask') := by
  cases h with
  | leaf ho => exact ho
  | same hc => exact hask _ _ hc
  | every hcalls hdecide =>
    refine Outcome.Alike.map (Outcome.Alike.join ?_) hdecide
    rw [List.forall₂_map_left_iff, List.forall₂_map_right_iff]
    exact hcalls.imp hask
  | first hcandidates =>
    refine Outcome.Alike.scanCandidates ?_ .nil .nil
    rw [List.forall₂_map_left_iff, List.forall₂_map_right_iff]
    exact hcandidates.imp fun _ _ h => hask _ _ h
  | @supplied supplier path q call call' hplace hcall =>
    refine Supplier.call_bind_alike (fun v hv => hask _ _ (hcall v hv)) fun reason => ?_
    exact Correspondence.refuse_alike hplace _ _
  | effect hc hjudge => exact (hask _ _ hc).andThen fun v => .call _ (hjudge v)

/-- The same node in two trees, above subtrees that are related by `Q`; a reference has nothing to compare. -/
inductive Schema.SameNode (Q : Schema → Schema → Prop) : Schema → Schema → Prop where
  | string (rules : Rules TextRule) : SameNode Q (.string rules) (.string rules)
  | number (rules : Rules NumericRule) : SameNode Q (.number rules) (.number rules)
  | boolean (typeMessage : Option String) : SameNode Q (.boolean typeMessage) (.boolean typeMessage)
  | enumeration (options : List String) (message : Option String) :
      SameNode Q (.enumeration options message) (.enumeration options message)
  | array (rules : Rules LengthRule) {item item' : Schema} : Q item item' →
      SameNode Q (.array rules item) (.array rules item')
  | object {shape shape' : Shape Schema} : shape.keys = shape'.keys → shape.unknownKeys = shape'.unknownKeys →
      shape.typeMessage = shape'.typeMessage →
      List.Forall₂ Q (shape.fields.map Prod.snd) (shape'.fields.map Prod.snd) →
      SameNode Q (.object shape) (.object shape')
  | union {candidates candidates' : List Schema} : List.Forall₂ Q candidates candidates' →
      SameNode Q (.union candidates) (.union candidates')
  | optional {inner inner' : Schema} : Q inner inner' → SameNode Q (.optional inner) (.optional inner')
  | nullable {inner inner' : Schema} : Q inner inner' → SameNode Q (.nullable inner) (.nullable inner')
  | nullish {inner inner' : Schema} : Q inner inner' → SameNode Q (.nullish inner) (.nullish inner')
  | default {inner inner' : Schema} (supplier : Supplier) : Q inner inner' →
      SameNode Q (.default inner supplier) (.default inner' supplier)
  | refine {inner inner' : Schema} (refinement : Refinement Value) : Q inner inner' →
      SameNode Q (.refine inner refinement) (.refine inner' refinement)
  | transform {inner inner' : Schema} (mapping : Mapping Value Value) : Q inner inner' →
      SameNode Q (.transform inner mapping) (.transform inner' mapping)
  | custom (check : Check) : SameNode Q (.custom check) (.custom check)

/-- **A node is the same as itself**, where its children are related to themselves. -/
theorem Schema.SameNode.of_children {Q : Schema → Schema → Prop} {s : Schema} (hs : ∀ r, s ≠ .reference r)
    (h : ∀ c ∈ s.children, Q c c) : s.SameNode Q s := by
  cases s with
  | string rules => exact .string rules
  | number rules => exact .number rules
  | boolean typeMessage => exact .boolean typeMessage
  | enumeration options message => exact .enumeration options message
  | array rules item => exact .array rules (h item (List.mem_singleton.2 rfl))
  | object shape => exact .object rfl rfl rfl (List.forall₂_same.2 h)
  | union candidates => exact .union (List.forall₂_same.2 h)
  | optional inner => exact .optional (h inner (List.mem_singleton.2 rfl))
  | nullable inner => exact .nullable (h inner (List.mem_singleton.2 rfl))
  | nullish inner => exact .nullish (h inner (List.mem_singleton.2 rfl))
  | default inner supplier => exact .default supplier (h inner (List.mem_singleton.2 rfl))
  | refine inner refinement => exact .refine refinement (h inner (List.mem_singleton.2 rfl))
  | transform inner mapping => exact .transform mapping (h inner (List.mem_singleton.2 rfl))
  | reference r => exact absurd rfl (hs r)
  | custom check => exact .custom check

/-- A check of a user's that comes to corresponding verdicts at corresponding places, and any other node. -/
def Schema.Follows (K : Correspondence) : Schema → Prop
  | .custom check => ∀ v path q, K.place path q → K.Alike (check v path) (check v q)
  | _ => True

theorem forall₂_of_keys {Q : Schema → Schema → Prop} : ∀ {fields fields' : List (String × Schema)},
    Entries.keys fields = Entries.keys fields' → List.Forall₂ Q (fields.map Prod.snd) (fields'.map Prod.snd) →
      List.Forall₂ (fun f f' => f.1 = f'.1 ∧ Q f.2 f'.2) fields fields'
  | [], [], _, _ => .nil
  | [], _ :: _, hkeys, _ => by cases hkeys
  | _ :: _, [], hkeys, _ => by cases hkeys
  | f :: fields, f' :: fields', hkeys, h => by
    obtain ⟨hname, hkeys⟩ := List.cons.inj hkeys
    obtain ⟨hf, h⟩ := List.forall₂_cons.1 h
    exact .cons ⟨hname, hf⟩ (forall₂_of_keys hkeys h)

/-- **The same node goes the same way**, with calls that go to related schemas, give them the same values, and stand at
corresponding places. -/
theorem Registries.matches_of_sameNode {rs rs' : Registries} {K : Correspondence} {Q : Schema → Schema → Prop}
    {s s' : Schema} {v : Value} {path q : Path} (hnode : s.SameNode Q s') (hplace : K.place path q) (hs : s.Follows K) :
    (rs.plan ⟨s, v, path⟩).Matches K (fun c c' => rs.Calls ⟨s, v, path⟩ c ∧ Q c.schema c'.schema ∧ c.value = c'.value ∧
      K.place c.path c'.path) (rs'.plan ⟨s', v, q⟩) := by
  cases hnode with
  | string rules => exact .leaf (Correspondence.string_alike rules hplace v)
  | number rules => exact .leaf (Correspondence.number_alike rules hplace v)
  | boolean typeMessage => exact .leaf (Correspondence.boolean_alike typeMessage hplace v)
  | enumeration options message => exact .leaf (Correspondence.enumeration_alike options message hplace v)
  | array rules hitem =>
    cases v with
    | array items =>
      refine .every ?_ fun xs ys h =>
        (Verdict.gather_related (Correspondence.violations_related rules hplace _) h).map _
      refine forall₂_mapIdx_left_iff.2 ⟨List.length_mapIdx.symm, fun i hi _ => ?_⟩
      rw [List.getElem_mapIdx]
      exact ⟨.item (List.getElem?_eq_getElem _), hitem, rfl, K.place_child hplace _⟩
    | _ => exact .leaf (.ready (Correspondence.related_single hplace _ _))
  | @object shape shape' hkeys hmode hwords hfields =>
    cases v with
    | object entries =>
      refine .every ?_ fun xs ys h => Verdict.Related.map _ (Shape.assemble_related (by simpa using hkeys) hmode
        (Correspondence.unknownIssues_related (by simpa using hkeys) hmode hplace entries) h)
      rw [List.forall₂_map_left_iff, List.forall₂_map_right_iff]
      have hpairs := forall₂_of_keys hkeys hfields
      refine List.forall₂_iff_get.2 ⟨hpairs.length_eq, fun i hi hi' => ?_⟩
      obtain ⟨hname, hQ⟩ := hpairs.get hi hi'
      refine ⟨.field (List.get_mem _ _), hQ, ?_, ?_⟩
      · simp only [fieldCall, hname]
      · simp only [fieldCall, hname]
        exact K.place_child hplace _
    | _ =>
      simp only [plan, hwords]
      exact .leaf (.ready (Correspondence.related_single hplace _ _))
  | @union candidates candidates' h =>
    simp only [plan]
    cases h with
    | nil => exact .leaf (.ready (Correspondence.related_single hplace _ _))
    | @cons s s' rest rest' hfirst hrest =>
      refine .first ?_
      refine List.forall₂_iff_get.2 ⟨by simp [hrest.length_eq], fun i hi hi' => ?_⟩
      exact ⟨.candidate (List.get_mem _ _), (List.Forall₂.cons hfirst hrest).get hi hi', rfl, hplace⟩
  | optional h =>
    cases hv : v.isUndefined <;> simp only [plan, hv]
    · exact .same ⟨.optional hv, h, rfl, hplace⟩
    · exact .leaf (.ready rfl)
  | nullable h =>
    cases hv : v.isNull <;> simp only [plan, hv]
    · exact .same ⟨.nullable hv, h, rfl, hplace⟩
    · exact .leaf (.ready rfl)
  | nullish h =>
    cases v with
    | undefined => exact .leaf (.ready rfl)
    | null => exact .leaf (.ready rfl)
    | _ => exact .same ⟨.nullish rfl rfl, h, rfl, hplace⟩
  | default supplier h =>
    cases hv : v.isUndefined <;> simp only [plan, hv]
    · exact .same ⟨.default hv, h, rfl, hplace⟩
    · obtain rfl := Value.eq_undefined hv
      exact .supplied hplace fun w hw => ⟨.supplied hw, h, rfl, hplace⟩
  | refine r h =>
    refine .effect ⟨.refine, h, rfl, hplace⟩ fun w => ?_
    simp only [Refinement.judge]
    split
    · rfl
    · exact Correspondence.related_single hplace _ _
  | transform m h =>
    refine .effect ⟨.transform, h, rfl, hplace⟩ fun w => ?_
    simp only [Mapping.judge]
    split
    · rfl
    · exact Correspondence.related_single hplace _ _
  | custom check => exact .leaf (hs v path q hplace)

end Schemata
