import Schemata.Proofs.Calls
/-!
# Registering — what is looked up does not tell when it was registered

Registering writes one name of one store, and only where none stood (`Registries.get?_contents_register`).  So a list of
registrations that all succeed can be made in any other order: all succeed again, and every look-up finds the same
(`Registries.registerAll_perm`).  Validation asks the stores nothing but look-ups, and cannot tell the orders apart.
-/
namespace Schemata

/-- A schema to be registered: through which handle, and under which name. -/
structure Registration where
  handle : Handle
  name : String
  schema : Schema

namespace Registries

variable {rs rs' : Registries}

/-- **Registers one schema after the other**, up to the first that cannot be. -/
def registerAll (rs : Registries) : List Registration → Except RegistryError Registries
  | [] => .ok rs
  | g :: rest =>
    match rs.register g.handle g.name g.schema with
    | .ok rs' => rs'.registerAll rest
    | .error e => .error e

/-- The same handles reach the same stores, and every look-up finds the same. -/
structure SameLookups (rs rs' : Registries) : Prop where
  handles : rs.handles = rs'.handles
  count : rs.stores.length = rs'.stores.length
  lookup : ∀ store name, (rs.contents store).get? name = (rs'.contents store).get? name

namespace SameLookups

theorem refl (rs : Registries) : rs.SameLookups rs := ⟨rfl, rfl, fun _ _ => rfl⟩

theorem resolve (h : rs.SameLookups rs') (r : Reference) : rs.resolve r = rs'.resolve r := by
  have halive : rs.alive r.store = rs'.alive r.store := by unfold alive; rw [h.handles]
  unfold Registries.resolve
  rw [halive, h.lookup]

end SameLookups

/-- **Validation asks the stores nothing but what references lead to.** -/
theorem check_eq_of_resolve (h : ∀ r, rs.resolve r = rs'.resolve r) : rs.check = rs'.check := by
  refine eq_check_of_eq_answer fun s v path => ?_
  rw [check_eq_answer]
  cases s with
  | reference r => simp only [answer, h r]
  | _ => rfl

/-! ## One registration -/

theorem contents_modify (rs : Registries) (store other : Nat) (f : Store → Store) (hf : store < rs.stores.length) :
    Registries.contents { rs with stores := rs.stores.modify store f } other =
      if store = other then f (rs.contents other) else rs.contents other := by
  unfold contents
  rw [List.getElem?_modify]
  by_cases h : store = other
  · subst h
    simp [List.getElem?_eq_getElem hf]
  · simp [h]

/-- **A name is registered where none stood**, and then stands there; no other look-up changes. -/
theorem register_eq_ok_iff {h : Handle} {name : String} {s : Schema} :
    rs.register h name s = .ok rs' ↔ (rs.contents h.store).get? name = none ∧
      rs' = { rs with stores := rs.stores.modify h.store fun store => store.insert name s } := by
  unfold register Entries.has
  cases (rs.contents h.store).get? name with
  | none => exact ⟨fun h => ⟨rfl, (Except.ok.inj h).symm⟩, fun h => congrArg Except.ok h.2.symm⟩
  | some t => exact ⟨nofun, fun h => nomatch h.1⟩

theorem get?_contents_register {h : Handle} {name : String} {s : Schema} (hreg : rs.register h name s = .ok rs')
    (store : Nat) (other : String) : (rs'.contents store).get? other =
      if h.store < rs.stores.length ∧ h.store = store ∧ name = other then some s
      else (rs.contents store).get? other := by
  obtain ⟨-, rfl⟩ := register_eq_ok_iff.1 hreg
  by_cases hlt : h.store < rs.stores.length
  · rw [contents_modify rs _ _ _ hlt]
    by_cases hstore : h.store = store
    · subst hstore
      simp [hlt, Entries.get?_insert]
    · simp [hstore]
  · rw [List.modify_eq_self (Nat.le_of_not_lt hlt), if_neg fun hc => hlt hc.1]

theorem handles_register {h : Handle} {name : String} {s : Schema} (hreg : rs.register h name s = .ok rs') :
    rs'.handles = rs.handles := by
  obtain ⟨-, rfl⟩ := register_eq_ok_iff.1 hreg
  rfl

theorem length_stores_register {h : Handle} {name : String} {s : Schema} (hreg : rs.register h name s = .ok rs') :
    rs'.stores.length = rs.stores.length := by
  obtain ⟨-, rfl⟩ := register_eq_ok_iff.1 hreg
  exact List.length_modify _ _ _

/-! ## Many registrations -/

theorem register_sameLookups {h : Handle} {name : String} {s : Schema} {rt : Registries} (hsame : rs.SameLookups rs')
    (hreg : rs.register h name s = .ok rt) : ∃ rt', rs'.register h name s = .ok rt' ∧ rt.SameLookups rt' := by
  have hfree : (rs'.contents h.store).get? name = none := by
    rw [← hsame.lookup]
    exact (register_eq_ok_iff.1 hreg).1
  obtain ⟨rt', hreg'⟩ : ∃ rt', rs'.register h name s = .ok rt' := ⟨_, register_eq_ok_iff.2 ⟨hfree, rfl⟩⟩
  refine ⟨rt', hreg', ?_, ?_, fun store other => ?_⟩
  · rw [handles_register hreg, handles_register hreg', hsame.handles]
  · rw [length_stores_register hreg, length_stores_register hreg', hsame.count]
  · rw [get?_contents_register hreg, get?_contents_register hreg', hsame.count, hsame.lookup]

/-- **Two registrations one after the other can change places.** -/
theorem register_swap {h k : Handle} {name other : String} {s t : Schema} {ra rb : Registries}
    (hfirst : rs.register h name s = .ok ra) (hsecond : ra.register k other t = .ok rb) :
    ∃ ra' rb', rs.register k other t = .ok ra' ∧ ra'.register h name s = .ok rb' ∧ rb.SameLookups rb' := by
  have hfree := (register_eq_ok_iff.1 hfirst).1
  have hfree' := (register_eq_ok_iff.1 hsecond).1
  rw [get?_contents_register hfirst] at hfree'
  obtain ⟨hapart, hfree'⟩ : ¬(h.store < rs.stores.length ∧ h.store = k.store ∧ name = other) ∧
      (rs.contents k.store).get? other = none := by
    split at hfree'
    · cases hfree'
    · exact ⟨‹_›, hfree'⟩
  obtain ⟨ra', hfirst'⟩ : ∃ ra', rs.register k other t = .ok ra' := ⟨_, register_eq_ok_iff.2 ⟨hfree', rfl⟩⟩
  have hfree'' : (ra'.contents h.store).get? name = none := by
    rw [get?_contents_register hfirst', if_neg, hfree]
    rintro ⟨hlt, hstore, hname⟩
    exact hapart ⟨hstore ▸ hlt, hstore.symm, hname.symm⟩
  obtain ⟨rb', hsecond'⟩ : ∃ rb', ra'.register h name s = .ok rb' := ⟨_, register_eq_ok_iff.2 ⟨hfree'', rfl⟩⟩
  refine ⟨ra', rb', hfirst', hsecond', ?_, ?_, fun store looked => ?_⟩
  · rw [handles_register hsecond, handles_register hfirst, handles_register hsecond', handles_register hfirst']
  · rw [length_stores_register hsecond, length_stores_register hfirst, length_stores_register hsecond',
      length_stores_register hfirst']
  · rw [get?_contents_register hsecond, get?_contents_register hfirst, get?_contents_register hsecond',
      get?_contents_register hfirst', length_stores_register hfirst, length_stores_register hfirst']
    split
    · rename_i hk
      rw [if_neg]
      rintro ⟨hlt, hstore, hname⟩
      exact hapart ⟨hlt, hstore.trans hk.2.1.symm, hname.trans hk.2.2.symm⟩
    · rfl

theorem registerAll_cons_eq_ok {g : Registration} {rest : List Registration} :
    rs.registerAll (g :: rest) = .ok rs' ↔
      ∃ rt, rs.register g.handle g.name g.schema = .ok rt ∧ rt.registerAll rest = .ok rs' := by
  rw [registerAll]
  cases rs.register g.handle g.name g.schema with
  | ok rt => exact ⟨fun h => ⟨rt, rfl, h⟩, fun ⟨_, hrt, h⟩ => Except.ok.inj hrt ▸ h⟩
  | error e => exact ⟨nofun, fun ⟨_, hrt, _⟩ => nomatch hrt⟩

theorem registerAll_sameLookups {rt : Registries} : ∀ {l : List Registration} {rs rs' : Registries},
    rs.SameLookups rs' → rs.registerAll l = .ok rt → ∃ rt', rs'.registerAll l = .ok rt' ∧ rt.SameLookups rt'
  | [], rs, rs', hsame, h => ⟨rs', rfl, Except.ok.inj h ▸ hsame⟩
  | g :: rest, rs, rs', hsame, h => by
    obtain ⟨ru, hreg, hrest⟩ := registerAll_cons_eq_ok.1 h
    obtain ⟨ru', hreg', hsame'⟩ := register_sameLookups hsame hreg
    obtain ⟨rt', hrest', hsame''⟩ := registerAll_sameLookups hsame' hrest
    exact ⟨rt', registerAll_cons_eq_ok.2 ⟨ru', hreg', hrest'⟩, hsame''⟩

/-- **In any order all registrations succeed again, and every look-up finds the same.** -/
theorem registerAll_perm {l l' : List Registration} (hperm : l.Perm l') : ∀ {rs rt : Registries},
    rs.registerAll l = .ok rt → ∃ rt', rs.registerAll l' = .ok rt' ∧ rt.SameLookups rt' := by
  induction hperm with
  | nil => exact fun {_ rt} h => ⟨rt, h, .refl rt⟩
  | cons g _ ih =>
    intro rs rt h
    obtain ⟨ru, hreg, hrest⟩ := registerAll_cons_eq_ok.1 h
    obtain ⟨rt', hrest', hsame⟩ := ih hrest
    exact ⟨rt', registerAll_cons_eq_ok.2 ⟨ru, hreg, hrest'⟩, hsame⟩
  | swap g g' l =>
    intro rs rt h
    obtain ⟨ru, hreg, h⟩ := registerAll_cons_eq_ok.1 h
    obtain ⟨rv, hreg', hrest⟩ := registerAll_cons_eq_ok.1 h
    obtain ⟨ru', rv', hswap, hswap', hsame⟩ := register_swap hreg hreg'
    obtain ⟨rt', hrest', hsame'⟩ := registerAll_sameLookups hsame hrest
    exact ⟨rt', registerAll_cons_eq_ok.2 ⟨ru', hswap, registerAll_cons_eq_ok.2 ⟨rv', hswap', hrest'⟩⟩, hsame'⟩
  | trans _ _ ih ih' =>
    intro rs rt h
    obtain ⟨ru, hu, hsame⟩ := ih h
    obtain ⟨rv, hv, hsame'⟩ := ih' hu
    refine ⟨rv, hv, hsame.handles.trans hsame'.handles, hsame.count.trans hsame'.count, fun store name => ?_⟩
    exact (hsame.lookup store name).trans (hsame'.lookup store name)

end Registries
end Schemata
