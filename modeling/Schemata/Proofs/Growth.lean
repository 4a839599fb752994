import Schemata.Proofs.Correspondence
import Schemata.Proofs.Registering
import Schemata.Proofs.Timing
/-!
# Growth — more names and higher limits

A registry may come to hold further names, and its references may come to allow more hops.  Without unions nothing
that a reference reports by itself can get lost on the way up: an array and an object keep every issue, an effect and
a modifier pass a report on (`Plan.Suits`).  So a verdict in which no reference reports anything came about without
one failing, and comes about again when there is more to find (`Registries.settle_check_of_grows`).
-/
namespace Schemata

variable {α β : Type}

/-- An issue of the kind that a reference raises itself: too many hops, no registry, or no such name. -/
def Issue.OfReference (i : Issue) : Prop := i.code = .custom ∧ ∃ fault : ReferenceFault, i.message = fault.text

/-- Some reference reports a fault of its own. -/
def Verdict.Faulty (x : Verdict α) : Prop := ∃ i ∈ x.issues, i.OfReference

theorem Verdict.not_faulty_ok (a : α) : ¬ Verdict.Faulty (.ok a : Verdict α) := nofun

theorem ReferenceFault.faulty (path : Path) (fault : ReferenceFault) :
    Verdict.Faulty (.error (.custom path fault.text) : Verdict α) := ⟨_, List.mem_singleton.2 rfl, rfl, fault, rfl⟩

theorem Verdict.related_eq_iff {x y : Verdict α} : x.Related Eq y ↔ x = y := by
  cases x with
  | ok a =>
    cases y with
    | ok b => exact ⟨congrArg Except.ok, Except.ok.inj⟩
    | error s => exact ⟨False.elim, nofun⟩
  | error r =>
    cases y with
    | ok b => exact ⟨False.elim, nofun⟩
    | error s =>
      obtain ⟨is⟩ := r
      obtain ⟨js⟩ := s
      simp [Related, List.forall₂_eq_eq_eq]

/-! ## Outcomes that are kept -/

/-- **One outcome settles to a verdict, and the other keeps it unless a reference reports in it.** -/
def Outcome.Kept (o o' : Outcome (Verdict Value)) : Prop :=
  ∃ verdict, o.Certain verdict ∧ (¬ verdict.Faulty → o'.Certain verdict)

namespace Outcome

theorem Certain.alike {o o' : Outcome (Verdict Value)} {verdict : Verdict Value} (h : o.Certain verdict)
    (halike : Correspondence.identity.Alike o o') : o'.Certain verdict := fun b hb => by
  obtain ⟨a, ha, hab⟩ := Alike.ends halike hb
  rw [← Verdict.related_eq_iff.1 hab]
  exact h a ha

theorem Certain.kept {o o' : Outcome (Verdict Value)} {verdict : Verdict Value} (h : o.Certain verdict)
    (halike : Correspondence.identity.Alike o o') : o.Kept o' := ⟨verdict, h, fun _ => h.alike halike⟩

theorem kept_of_faulty {o o' : Outcome (Verdict Value)} {verdict : Verdict Value} (h : o = .ready verdict)
    (hfaulty : verdict.Faulty) : o.Kept o' := ⟨verdict, h ▸ certain_ready verdict, fun hnot => absurd hfaulty hnot⟩

theorem forall₂_kept {os os' : List (Outcome (Verdict Value))} (h : List.Forall₂ Kept os os') :
    ∃ verdicts, List.Forall₂ Certain os verdicts ∧
      ((∀ x ∈ verdicts, ¬ x.Faulty) → List.Forall₂ Certain os' verdicts) := by
  induction h with
  | nil => exact ⟨[], .nil, fun _ => .nil⟩
  | cons ho _ ih =>
    obtain ⟨x, hx, hkeep⟩ := ho
    obtain ⟨verdicts, hcertain, hkeeps⟩ := ih
    refine ⟨x :: verdicts, .cons hx hcertain, fun hnot => ?_⟩
    exact .cons (hkeep (hnot x List.mem_cons_self)) (hkeeps fun y hy => hnot y (List.mem_cons_of_mem x hy))

end Outcome

/-- A node whose verdict is decided by the verdicts of its parts, and of the functions in it, which are pure: no
union, no counter, and no check of a user's but one that always comes to the same verdict. -/
def Schema.Determinate : Schema → Prop
  | .union _ => False
  | .default _ supplier => ∃ answer, supplier.source = .given answer
  | .custom check => ∀ v path, ∃ verdict, (check v path).Certain verdict
  | _ => True

theorem Schema.follows_identity (s : Schema) : s.Follows .identity := by
  cases s with
  | custom check =>
    rintro v path q rfl
    exact .refl (fun _ => Verdict.related_eq_iff.2 rfl) _
  | _ => trivial

/-- **Matching ways keep what the calls on them keep.** -/
theorem Plan.Matches.kept {c : Call} {A : Call → Call → Prop} {ask ask' : Call → Outcome (Verdict Value)} {p p' : Plan}
    (h : p.Matches .identity A p') (suits : p.Suits c) (determinate : c.schema.Determinate)
    (hask : ∀ d d', A d d' → (ask d).Kept (ask' d')) : (p.outcome ask).Kept (p'.outcome ask') := by
  cases h with
  | @leaf o o' halike =>
    rcases suits with ⟨verdict, rfl⟩ | ⟨check, hschema, rfl⟩
    · exact (Outcome.certain_ready verdict).kept halike
    · rw [hschema] at determinate
      obtain ⟨verdict, hverdict⟩ := determinate c.value c.path
      exact hverdict.kept halike
  | same hc => exact hask _ _ hc
  | @every calls calls' decide decide' hcalls hdecide =>
    have houtcomes : List.Forall₂ Outcome.Kept (calls.map ask) (calls'.map ask') := by
      rw [List.forall₂_map_left_iff, List.forall₂_map_right_iff]
      exact hcalls.imp hask
    obtain ⟨verdicts, hcertain, hkeeps⟩ := Outcome.forall₂_kept houtcomes
    have heq : decide verdicts = decide' verdicts :=
      Verdict.related_eq_iff.1 (hdecide _ _ (List.forall₂_same.2 fun _ _ => Verdict.related_eq_iff.2 rfl))
    refine ⟨decide verdicts, (Outcome.Certain.join hcertain).bind (Outcome.certain_ready _), fun hnot => ?_⟩
    have hnone : ∀ x ∈ verdicts, ¬ x.Faulty := fun x hx ⟨i, hi, hof⟩ => hnot ⟨i, suits verdicts x hx i hi, hof⟩
    rw [heq]
    exact (Outcome.Certain.join (hkeeps hnone)).bind (Outcome.certain_ready _)
  | first _ =>
    rw [suits.1] at determinate
    exact determinate.elim
  | @supplied supplier path q call call' hplace hcall =>
    obtain ⟨inner, hschema⟩ := suits
    rw [hschema] at determinate
    obtain ⟨answer, hgiven⟩ := determinate
    obtain rfl : path = q := hplace
    have hcertain : supplier.call.Certain answer := by
      rw [Supplier.call, hgiven]
      exact Step.certain_call _ _
    cases answer with
    | ok v =>
      obtain ⟨verdict, hv, hkeep⟩ := hask _ _ (hcall v (by rw [Supplier.Gives, hgiven]))
      exact ⟨verdict, hcertain.bind hv, fun hnot => hcertain.bind (hkeep hnot)⟩
    | error reason =>
      exact ⟨_, hcertain.bind (Outcome.certain_ready _), fun _ => hcertain.bind (Outcome.certain_ready _)⟩
  | @effect d d' step judge judge' hd hjudge =>
    obtain ⟨verdict, hverdict, hkeep⟩ := hask _ _ hd
    cases verdict with
    | ok v =>
      have heq : judge v = judge' v := Verdict.related_eq_iff.1 (hjudge v)
      refine ⟨judge v, hverdict.bind (Step.certain_call _ _), fun _ => ?_⟩
      rw [heq]
      exact (hkeep (Verdict.not_faulty_ok v)).bind (Step.certain_call _ _)
    | error r =>
      exact ⟨.error r, hverdict.bind (Outcome.certain_ready _), fun hnot => (hkeep hnot).bind (Outcome.certain_ready _)⟩

/-! ## Registries that have grown -/

/-- The same schema with its references into other stores, and with limits that are no lower. -/
inductive Schema.Raised (store : Nat → Nat) : Schema → Schema → Prop where
  | node {s s' : Schema} : s.SameNode (Schema.Raised store) s' → Schema.Raised store s s'
  | reference {r r' : Reference} : r'.store = store r.store → r'.name = r.name → r.limit ≤ r'.limit →
      Schema.Raised store (.reference r) (.reference r')

theorem Schema.raised_refl (s : Schema) : s.Raised id s := by
  by_cases hs : ∀ r, s ≠ .reference r
  · exact .node (.of_children hs fun c hc => raised_refl c)
  · obtain ⟨r, hr⟩ := not_forall_not.1 hs
    subst hr
    exact .reference rfl rfl (Nat.le_refl _)
termination_by sizeOf s
decreasing_by exact Schema.sizeOf_lt_of_mem_children hc

namespace Registries

/-- **Every name that can be looked up in the one can be in the other**, and there stands the same schema raised. -/
def Grows (store : Nat → Nat) (rs rs' : Registries) : Prop :=
  ∀ i name s, rs.alive i = true → (rs.contents i).get? name = some s →
    rs'.alive (store i) = true ∧ ∃ s', (rs'.contents (store i)).get? name = some s' ∧ s.Raised store s'

variable {store : Nat → Nat} {rs rs' : Registries}

theorem Grows.resolve (h : rs.Grows store rs') {r r' : Reference} {s : Schema} (hstore : r'.store = store r.store)
    (hname : r'.name = r.name) (hr : rs.resolve r = .ok s) : ∃ s', rs'.resolve r' = .ok s' ∧ s.Raised store s' := by
  obtain ⟨halive, hget⟩ := resolve_eq_ok_iff.1 hr
  obtain ⟨halive', s', hget', hraised⟩ := h _ _ _ halive hget
  exact ⟨s', resolve_eq_ok_iff.2 ⟨hstore ▸ halive', by rw [hstore, hname]; exact hget'⟩, hraised⟩

theorem Grows.refl (rs : Registries) : rs.Grows id rs := fun _ _ s halive hget => ⟨halive, s, hget, s.raised_refl⟩

/-- **Registering one more name is growth.** -/
theorem Grows.register (h : rs.Grows store rs') {k : Handle} {name : String} {s : Schema} {rs'' : Registries}
    (hreg : rs'.register k name s = .ok rs'') : rs.Grows store rs'' := by
  intro i other t halive hget
  obtain ⟨halive', t', hget', hraised⟩ := h i other t halive hget
  refine ⟨?_, t', ?_, hraised⟩
  · unfold alive
    rw [handles_register hreg]
    exact halive'
  · rw [get?_contents_register hreg, if_neg, hget']
    rintro ⟨-, hstore, rfl⟩
    rw [← hstore, (register_eq_ok_iff.1 hreg).1] at hget'
    cases hget'

theorem Grows.registerAll : ∀ {l : List Registration} {rs' rs'' : Registries}, rs.Grows store rs' →
    rs'.registerAll l = .ok rs'' → rs.Grows store rs''
  | [], _, _, h, hall => Except.ok.inj hall ▸ h
  | _ :: _, _, _, h, hall => by
    obtain ⟨rt, hreg, hrest⟩ := registerAll_cons_eq_ok.1 hall
    exact (h.register hreg).registerAll hrest

/-- **A registry that grows keeps every verdict in which no reference reports.** -/
theorem validate_kept (hgrows : rs.Grows store rs') (c : Call) : ∀ {s' : Schema}, c.schema.Raised store s' →
    (∀ t, rs.Reaches c.schema t → t.Determinate) → (rs.validate c).Kept (rs'.validate ⟨s', c.value, c.path⟩) := by
  induction c using rs.call_induction with
  | step c ih =>
    intro s' hraised determinate
    obtain ⟨s, v, path⟩ := c
    dsimp only at hraised determinate
    cases hraised with
    | node hnode =>
      rw [validate_eq_plan, validate_eq_plan]
      refine (matches_of_sameNode (K := .identity) hnode rfl s.follows_identity).kept (rs.plan_suits _)
        (determinate s (.here s)) ?_
      rintro d ⟨t', w, q⟩ ⟨hcall, hschema, hvalue, hplace⟩
      obtain rfl : d.value = w := hvalue
      obtain rfl : d.path = q := hplace
      exact ih d hcall hschema fun t ht => determinate t (reaches_of_calls hcall ht)
    | @reference r r' hstore hname hlimit =>
      rw [validate_eq_plan]
      simp only [plan]
      split
      · exact Outcome.kept_of_faulty rfl (ReferenceFault.faulty path _)
      · rename_i hlt
        cases hr : rs.resolve r with
        | error fault => exact Outcome.kept_of_faulty rfl (ReferenceFault.faulty path fault)
        | ok t =>
          obtain ⟨t', hr', ht'⟩ := hgrows.resolve hstore hname hr
          have hfollowed : rs'.validate ⟨.reference r', v, path⟩ = rs'.validate ⟨t', v, path.followed⟩ := by
            rw [validate_eq_plan, plan, if_neg (by omega), hr']
            rfl
          rw [hfollowed]
          exact ih ⟨t, v, path.followed⟩ (.reference (Nat.lt_of_not_le hlt) hr) ht' fun u hu =>
            determinate u (.reference hr hu)

theorem settle_eq_of_kept {o o' : Outcome (Verdict Value)} (h : o.Kept o') {counters counters' : Counters}
    (hnone : ∀ i ∈ (o.settle counters).result.issues, ¬ i.OfReference) :
    (o'.settle counters').result = (o.settle counters).result := by
  obtain ⟨verdict, hverdict, hkeep⟩ := h
  rw [hverdict.settle] at hnone ⊢
  exact (hkeep fun ⟨i, hi, hof⟩ => hnone i hi hof).settle counters'

/-- **Growth changes no result but those of references that failed.**  Let every name of one registry stand in
another, under the same schema but for limits that may be higher, and let no union be reached and all functions be
pure.  A result in which no reference reports too many hops, a lost registry or a missing name is the same in the
other registry: the same output, or the same issues in the same order.  So what was accepted stays accepted with the
same output; and registering any further names in a registry changes no such result. -/
theorem settle_check_of_grows {store : Nat → Nat} {rs rs' : Registries} {s s' : Schema} (hgrows : rs.Grows store rs')
    (hraised : s.Raised store s') (determinate : ∀ t, rs.Reaches s t → t.Determinate) (v : Value) (path : Path)
    (counters counters' : Counters) :
    let result := ((rs.check s v path).settle counters).result
    ((∀ i ∈ result.issues, ¬ i.OfReference) → ((rs'.check s' v path).settle counters').result = result) ∧
    (∀ out, result = .ok out → ((rs'.check s' v path).settle counters').result = .ok out) ∧
    (∀ l rs'', rs.registerAll l = .ok rs'' → (∀ i ∈ result.issues, ¬ i.OfReference) →
      ((rs''.check s v path).settle counters').result = result) := by
  intro result
  have hkept : (rs.check s v path).Kept (rs'.check s' v path) := validate_kept hgrows ⟨s, v, path⟩ hraised determinate
  refine ⟨settle_eq_of_kept hkept, fun out hout => ?_, fun l rs'' hl => ?_⟩
  · have hnone : ∀ i ∈ result.issues, ¬ i.OfReference := by
      rw [hout]
      nofun
    exact (settle_eq_of_kept hkept hnone).trans hout
  · have hkept' : (rs.check s v path).Kept (rs''.check s v path) :=
      validate_kept ((Grows.refl rs).registerAll hl) ⟨s, v, path⟩ s.raised_refl determinate
    exact settle_eq_of_kept hkept'

/-- Arrays of nothing but such arrays. -/
def nests (limit : Nat) : Registries :=
  ⟨[[("nest", .array .empty (.reference ⟨0, "nest", limit⟩))]], [("r", ⟨0, limit⟩)]⟩

def nest (limit : Nat) : Schema := .reference ⟨0, "nest", limit⟩

theorem raised_nest {limit limit' : Nat} (h : limit ≤ limit') : (nest limit).Raised id (nest limit') :=
  .reference rfl rfl h

theorem grows_nests {limit limit' : Nat} (h : limit ≤ limit') : (nests limit).Grows id (nests limit') := by
  intro i name s halive hget
  obtain rfl : 0 = i := by simpa [alive, nests] using halive
  have hmem : (name, s) ∈ [("nest", Schema.array .empty (nest limit))] := Entries.mem_of_get? hget
  obtain ⟨rfl, rfl⟩ := Prod.mk.inj (List.mem_singleton.1 hmem)
  exact ⟨rfl, .array .empty (nest limit'), rfl, .node (.array _ (raised_nest h))⟩

theorem determinate_nest {limit : Nat} {t : Schema} (h : (nests limit).Reaches (nest limit) t) : t.Determinate := by
  have key : t = nest limit ∨ t = .array .empty (nest limit) := by
    refine h.invariant (P := fun t => t = nest limit ∨ t = .array .empty (nest limit)) ?_ ?_ (.inl rfl)
    · rintro s c (rfl | rfl) hc
      · cases hc
      · exact .inl (List.mem_singleton.1 hc)
    · rintro r s (hr | hr) hs
      · obtain rfl := Schema.reference.inj hr
        exact .inr (Except.ok.inj hs).symm
      · cases hr
  rcases key with rfl | rfl <;> trivial

/-- With a limit that is just enough the one item that is no array is all that is reported; and so it is with a higher
limit and another name. -/
theorem settle_check_of_nests :
    let items : Value := .array [.array [], .null]
    let word : Registration := ⟨⟨0, 5⟩, "word", .string .empty⟩
    ∃ grown, (nests 5).registerAll [word] = .ok grown ∧ (nests 2).Grows id grown ∧ (nest 2).Raised id (nest 5) ∧
      (∀ t, (nests 2).Reaches (nest 2) t → t.Determinate) ∧
      ((grown.check (nest 5) items .root).settle .fresh).result.issues =
        [⟨(Path.root.followed.index 1).followed, .invalidArray, "expected array, received null"⟩] := by
  intro items word
  have hgrown : ∃ grown, (nests 5).registerAll [word] = .ok grown := ⟨_, rfl⟩
  obtain ⟨grown, hall⟩ := hgrown
  have hgrows : (nests 2).Grows id grown := (grows_nests (by decide)).registerAll hall
  have hraised : (nest 2).Raised id (nest 5) := raised_nest (by decide)
  have hissues : (((nests 2).check (nest 2) items .root).settle .fresh).result.issues =
      [⟨(Path.root.followed.index 1).followed, .invalidArray, "expected array, received null"⟩] := by
    decide +kernel
  have hsame := (settle_check_of_grows hgrows hraised (fun t => determinate_nest) items .root .fresh .fresh).1 (by
    rw [hissues]
    rintro i hi ⟨hcode, -⟩
    obtain rfl := List.mem_singleton.1 hi
    cases hcode)
  exact ⟨grown, hall, hgrows, hraised, fun t => determinate_nest, hsame ▸ hissues⟩

end Registries
end Schemata
