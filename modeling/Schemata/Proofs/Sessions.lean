import Mathlib.Data.String.Basic
import Schemata.Proofs.Growth
import Schemata.Proofs.Hops
import Schemata.Proofs.Members
import Schemata.Session
/-!
# Sessions — what registries answer follows from what was done

A ledger writes down what a client did and nothing of what came of it: which registry each of its handles goes back to,
and every registration that it asked for, refused ones too (`Ledger.after`).  It knows no store and no limit.  After any
operations whatever, in any order, the registries hold of each registry what the ledger says was asked for first under
every name (`Registries.records_performAll`).  So handles on one registry are shown the same, a name once registered
stands for good, and a reference finds what is there when it is followed, however it was made
(`Registries.sessions_follow_ledger`).
-/
namespace Schemata

/-- A registration that was asked for, through a handle that goes back to `origin`. -/
structure Attempt where
  origin : Nat
  name : String
  schema : Schema

/-- **What a client did**: how many registries it created, which of them each handle goes back to, and the registrations
that it asked for, the latest last. -/
structure Ledger where
  created : Nat
  origins : Entries Nat
  attempts : List Attempt

namespace Ledger

def empty : Ledger := ⟨0, [], []⟩

def after (l : Ledger) : Operation → Ledger
  | .create label _ => { l with created := l.created + 1, origins := l.origins.insert label l.created }
  | .clone source label _ =>
    match l.origins.get? source with
    | some origin => { l with origins := l.origins.insert label origin }
    | none => l
  | .drop label => { l with origins := l.origins.erase label }
  | .register label name s =>
    match l.origins.get? label with
    | some origin => { l with attempts := l.attempts ++ [⟨origin, name, s⟩] }
    | none => l
  | _ => l

def afterAll (l : Ledger) (ops : List Operation) : Ledger := ops.foldl after l

/-- What was asked for first under a name, through whichever handle that goes back to `origin`. -/
def first? (l : Ledger) (origin : Nat) (name : String) : Option Schema :=
  (l.attempts.find? fun a => a.origin = origin ∧ a.name = name).map Attempt.schema

/-- A handle that goes back to `origin` is held. -/
def Holds (l : Ledger) (origin : Nat) : Prop := ∃ label, l.origins.get? label = some origin

variable {l : Ledger}

theorem first?_attempt (a : Attempt) (origin : Nat) (name : String) :
    first? { l with attempts := l.attempts ++ [a] } origin name =
      (l.first? origin name).or (if a.origin = origin ∧ a.name = name then some a.schema else none) := by
  unfold first?
  rw [List.find?_append, Option.map_or, List.find?_singleton]
  congr 1
  by_cases h : a.origin = origin ∧ a.name = name <;> simp [h]

theorem after_register {label : String} {origin : Nat} (h : l.origins.get? label = some origin) (name : String)
    (s : Schema) : l.after (.register label name s) = { l with attempts := l.attempts ++ [⟨origin, name, s⟩] } := by
  simp only [after, h]

/-- **What is asked for first is added under its name**, and nothing else changes. -/
theorem first?_of_free {origin : Nat} {name : String} (hfree : l.first? origin name = none) (s : Schema)
    (origin' : Nat) (name' : String) : first? { l with attempts := l.attempts ++ [⟨origin, name, s⟩] } origin' name' =
      if origin' = origin ∧ name' = name then some s else l.first? origin' name' := by
  rw [first?_attempt]
  by_cases h : origin' = origin ∧ name' = name
  · obtain ⟨rfl, rfl⟩ := h
    simp [hfree]
  · have h' : ¬(origin = origin' ∧ name = name') := fun hc => h ⟨hc.1.symm, hc.2.symm⟩
    rw [if_neg h, if_neg h', Option.or_none]

/-- **Only a registration through a handle of a registry adds to it.** -/
theorem first?_after {op : Operation} {origin : Nat}
    (h : ∀ label name s, op = .register label name s → l.origins.get? label ≠ some origin) (name : String) :
    (l.after op).first? origin name = l.first? origin name := by
  cases op with
  | clone source label limit =>
    simp only [after]
    split <;> rfl
  | register label other s =>
    simp only [after]
    split
    · rename_i found hfound
      have hne : found ≠ origin := fun heq => h label other s rfl (heq ▸ hfound)
      rw [first?_attempt, if_neg fun hc => hne hc.1, Option.or_none]
    · rfl
  | _ => rfl

/-- **What was asked for first stays the first.** -/
theorem first?_after_of_some {origin : Nat} {name : String} {s : Schema} (h : l.first? origin name = some s)
    (op : Operation) : (l.after op).first? origin name = some s := by
  cases op with
  | clone source label limit =>
    simp only [after]
    split <;> exact h
  | register label other t =>
    simp only [after]
    split
    · rw [first?_attempt, h]
      rfl
    · exact h
  | _ => exact h

theorem first?_afterAll_of_some {origin : Nat} {name : String} {s : Schema} : ∀ (ops : List Operation) {l : Ledger},
    l.first? origin name = some s → (l.afterAll ops).first? origin name = some s
  | [], _, h => h
  | op :: ops, _, h => first?_afterAll_of_some ops (first?_after_of_some h op)

end Ledger

/-! ## Entries -/

namespace Entries

variable {α β : Type}

theorem mapValues_insert (f : α → β) (key : String) (a : α) : ∀ es : Entries α,
    mapValues f (es.insert key a) = (mapValues f es).insert key (f a)
  | [] => rfl
  | (k, b) :: rest => by
    have ih := mapValues_insert f key a rest
    by_cases h : k = key
    · simp [insert, mapValues, h]
    · simpa [insert, mapValues, h] using ih

theorem mapValues_erase (f : α → β) (key : String) (es : Entries α) :
    mapValues f (es.erase key) = (mapValues f es).erase key := by
  simp only [mapValues, erase, restrict, List.filter_map]
  rfl

theorem keys_erase_sublist (es : Entries α) (key : String) : (es.erase key).keys.Sublist es.keys :=
  List.filter_sublist.map Prod.fst

end Entries

namespace Registries

variable {rs : Registries} {ledger : Ledger}

/-- The registries after one operation and the other. -/
def performAll (rs : Registries) (ops : List Operation) : Registries := ops.foldl (fun rs op => (rs.perform op).1) rs

/-- **The registries are as a ledger says**: every handle reaches the registry that it goes back to, which holds what
was asked for first under each name. -/
structure Records (rs : Registries) (ledger : Ledger) : Prop where
  origins : Entries.mapValues Handle.store rs.handles = ledger.origins
  labels : rs.handles.keys.Nodup
  created : rs.stores.length = ledger.created
  reached : ∀ label h, rs.handles.get? label = some h → h.store < rs.stores.length
  names : ∀ origin, (rs.contents origin).keys.Nodup
  lookup : ∀ origin name, (rs.contents origin).get? name = ledger.first? origin name

theorem records_empty : empty.Records .empty := by
  refine ⟨rfl, List.nodup_nil, rfl, nofun, fun origin => ?_, fun origin name => ?_⟩
  · exact List.nodup_nil
  · rfl

theorem contents_create (label : String) (limit origin : Nat) :
    (rs.create label limit).contents origin = rs.contents origin := by
  unfold contents create
  rw [List.getElem?_append]
  split
  · rfl
  · rename_i hlt
    rw [List.getElem?_eq_none (Nat.le_of_not_lt hlt)]
    cases origin - rs.stores.length <;> rfl

namespace Records

theorem get?_origins (h : rs.Records ledger) (label : String) :
    ledger.origins.get? label = (rs.handles.get? label).map Handle.store := by
  rw [← h.origins, Entries.get?_mapValues]

theorem exists_handle (h : rs.Records ledger) {label : String} {origin : Nat}
    (horigin : ledger.origins.get? label = some origin) :
    ∃ handle, rs.handles.get? label = some handle ∧ handle.store = origin := by
  rw [h.get?_origins] at horigin
  exact Option.map_eq_some_iff.1 horigin

/-- **A handle on a store that is there can be put under any label.** -/
theorem insert (h : rs.Records ledger) (label : String) (handle : Handle) (hreached : handle.store < rs.stores.length) :
    Records { rs with handles := rs.handles.insert label handle }
      { ledger with origins := ledger.origins.insert label handle.store } where
  origins := by
    rw [← h.origins]
    exact Entries.mapValues_insert _ _ _ _
  labels := Entries.nodup_keys_insert h.labels _ _
  created := h.created
  reached := by
    intro other k hk
    rw [Entries.get?_insert] at hk
    split at hk
    · exact Option.some.inj hk ▸ hreached
    · exact h.reached other k hk
  names := h.names
  lookup := h.lookup

theorem create (h : rs.Records ledger) (label : String) (limit : Nat) :
    (rs.create label limit).Records
      { ledger with created := ledger.created + 1, origins := ledger.origins.insert label ledger.created } := by
  have hcontents : ∀ origin, contents { rs with stores := rs.stores ++ [[]] } origin = rs.contents origin :=
    rs.contents_create label limit
  rw [← h.created]
  have hstores : Records { rs with stores := rs.stores ++ [[]] } { ledger with created := rs.stores.length + 1 } := by
    refine ⟨h.origins, h.labels, List.length_append, fun other k hk => ?_, fun origin => ?_, fun origin name => ?_⟩
    · rw [List.length_append]
      exact Nat.lt_add_right _ (h.reached other k hk)
    · rw [hcontents]
      exact h.names origin
    · rw [hcontents]
      exact h.lookup origin name
  exact hstores.insert label ⟨rs.stores.length, limit⟩ (by simp)

theorem erase (h : rs.Records ledger) (label : String) :
    (rs.drop label).Records { ledger with origins := ledger.origins.erase label } where
  origins := by
    rw [← h.origins]
    exact Entries.mapValues_erase _ _ _
  labels := (Entries.keys_erase_sublist _ _).nodup h.labels
  created := h.created
  reached := by
    intro other k hk
    have hmem := (List.mem_filter.1 (Entries.mem_of_get? hk)).1
    exact h.reached other k (Entries.get?_of_mem h.labels hmem)
  names := h.names
  lookup := h.lookup

theorem register (h : rs.Records ledger) {handle : Handle} (hreached : handle.store < rs.stores.length) {name : String}
    {s : Schema} {rs' : Registries} (hreg : rs.register handle name s = .ok rs') :
    rs'.Records { ledger with attempts := ledger.attempts ++ [⟨handle.store, name, s⟩] } := by
  have hfree := (register_eq_ok_iff.1 hreg).1
  refine ⟨?_, ?_, ?_, fun label k hk => ?_, fun origin => ?_, fun origin other => ?_⟩
  · rw [handles_register hreg]
    exact h.origins
  · rw [handles_register hreg]
    exact h.labels
  · rw [length_stores_register hreg]
    exact h.created
  · rw [handles_register hreg] at hk
    rw [length_stores_register hreg]
    exact h.reached label k hk
  · obtain ⟨-, rfl⟩ := register_eq_ok_iff.1 hreg
    rw [contents_modify rs _ _ _ hreached]
    split
    · exact Entries.nodup_keys_insert (h.names origin) name s
    · exact h.names origin
  · rw [get?_contents_register hreg, Ledger.first?_attempt, ← h.lookup]
    by_cases hc : handle.store = origin ∧ name = other
    · obtain ⟨rfl, rfl⟩ := hc
      simp [hreached, hfree]
    · rw [if_neg fun hc' => hc hc'.2, if_neg hc, Option.or_none]

/-- A registration that is refused changes nothing, and what it asked for was not the first. -/
theorem refused (h : rs.Records ledger) {handle : Handle} {name : String} {s : Schema} {e : RegistryError}
    (hreg : rs.register handle name s = .error e) :
    rs.Records { ledger with attempts := ledger.attempts ++ [⟨handle.store, name, s⟩] } := by
  refine ⟨h.origins, h.labels, h.created, h.reached, h.names, fun origin other => ?_⟩
  rw [Ledger.first?_attempt, ← h.lookup]
  by_cases hc : handle.store = origin ∧ name = other
  · obtain ⟨rfl, rfl⟩ := hc
    cases hget : (rs.contents handle.store).get? name with
    | some t => rfl
    | none =>
      rw [register_eq_ok_iff.2 ⟨hget, rfl⟩] at hreg
      cases hreg
  · rw [if_neg hc, Option.or_none]

/-- **One operation keeps registries as the ledger says.** -/
theorem perform (h : rs.Records ledger) (op : Operation) : (rs.perform op).1.Records (ledger.after op) := by
  cases op with
  | create label limit => exact h.create label _
  | clone source label limit =>
    simp only [Registries.perform, through, Ledger.after, h.get?_origins]
    cases hsource : rs.handles.get? source with
    | none => exact h
    | some handle =>
      have hreached := h.reached source handle hsource
      exact h.insert label { handle with limit := limit.getD handle.limit } hreached
  | drop label => exact h.erase label
  | register label name s =>
    simp only [Registries.perform, through, Ledger.after, h.get?_origins]
    cases hlabel : rs.handles.get? label with
    | none => exact h
    | some handle =>
      dsimp only [Option.map_some]
      cases hreg : rs.register handle name s with
      | ok rs' => exact h.register (h.reached _ _ hlabel) hreg
      | error e => exact h.refused hreg
  | validate label name v =>
    simp only [Registries.perform, through, Ledger.after]
    cases rs.handles.get? label with
    | none => exact h
    | some handle =>
      dsimp only
      cases rs.validateNamed handle name v <;> exact h
  | _ =>
    simp only [Registries.perform, through, Ledger.after]
    split <;> exact h

/-- **Any operations do.** -/
theorem performAll : ∀ (ops : List Operation) {rs : Registries} {ledger : Ledger}, rs.Records ledger →
    (rs.performAll ops).Records (ledger.afterAll ops)
  | [], _, _, h => h
  | op :: ops, _, _, h => performAll ops (h.perform op)

end Records

/-! ## What a client is shown -/

/-- **What a client is shown through a label**, where `found` says what stands under each name. -/
structure Shows (rs : Registries) (label : String) (found : String → Option Schema) : Prop where
  get : ∀ name, rs.perform (.get label name) = (rs, .found (found name))
  contains : ∀ name, rs.perform (.contains label name) = (rs, .flag (found name).isSome)
  names : ∃ names, rs.perform (.names label) = (rs, .names names) ∧ names.Pairwise (· < ·) ∧
    ∀ name, name ∈ names ↔ (found name).isSome = true
  taken : ∀ name s, (found name).isSome = true →
    rs.perform (.register label name s) = (rs, .refused (.duplicateName name))
  free : ∀ name s, found name = none → (rs.perform (.register label name s)).2 = .done
  validate : ∀ name v, rs.perform (.validate label name v) = (rs, match found name with
    | some s => .outcome (rs.check s v .root)
    | none => .refused (.schemaNotFound name))

theorem mem_names_iff (handle : Handle) (name : String) :
    name ∈ rs.names handle ↔ (rs.get? handle name).isSome = true := by
  unfold names get?
  rw [List.mem_mergeSort, Option.isSome_iff_ne_none, ne_eq, Entries.get?_eq_none_iff, not_not]

theorem pairwise_names {handle : Handle} (hnodup : (rs.contents handle.store).keys.Nodup) :
    (rs.names handle).Pairwise (· < ·) := by
  have hsorted := @List.pairwise_mergeSort String (fun a b => decide (a ≤ b)) (fun a b c => by simpa using le_trans)
    (fun a b => by simpa using le_total a b) (rs.contents handle.store).keys
  have hdistinct : (rs.names handle).Nodup := (List.mergeSort_perm _ _).nodup_iff.2 hnodup
  exact (hsorted.and hdistinct).imp fun {a b} h => lt_of_le_of_ne (of_decide_eq_true h.1) h.2

theorem through_eq {label : String} {handle : Handle} (h : rs.handles.get? label = some handle)
    (go : Handle → Registries × Answer) : rs.through label go = go handle := by
  rw [through, h]

/-- **Through a handle a client is shown what was asked for first** of the registry that it goes back to. -/
theorem Records.shows (h : rs.Records ledger) {label : String} {origin : Nat}
    (horigin : ledger.origins.get? label = some origin) : rs.Shows label (ledger.first? origin) := by
  obtain ⟨handle, hlabel, rfl⟩ := h.exists_handle horigin
  have hget : ∀ name, rs.get? handle name = ledger.first? handle.store name := h.lookup handle.store
  refine ⟨fun name => ?_, fun name => ?_, ⟨rs.names handle, ?_, ?_, fun name => ?_⟩, fun name s hfound => ?_,
    fun name s hfound => ?_, fun name v => ?_⟩
  · rw [Registries.perform, through_eq hlabel, hget]
  · rw [Registries.perform, through_eq hlabel, hget]
  · rw [Registries.perform, through_eq hlabel]
  · exact pairwise_names (h.names handle.store)
  · rw [mem_names_iff, hget]
  · rw [← hget] at hfound
    have hreg : rs.register handle name s = .error (.duplicateName name) := if_pos hfound
    simp only [Registries.perform, through_eq hlabel, hreg]
  · rw [← hget] at hfound
    have hreg := register_eq_ok_iff (s := s).2 ⟨hfound, rfl⟩
    simp only [Registries.perform, through_eq hlabel, hreg]
  · rw [← hget]
    simp only [Registries.perform, through_eq hlabel, validateNamed]
    cases rs.get? handle name <;> rfl

/-- **A store is alive as long as some handle goes back to it.** -/
theorem Records.alive_iff (h : rs.Records ledger) (origin : Nat) : rs.alive origin = true ↔ ledger.Holds origin := by
  unfold alive Ledger.Holds
  rw [List.any_eq_true]
  constructor
  · rintro ⟨⟨label, handle⟩, hmem, hstore⟩
    refine ⟨label, ?_⟩
    rw [h.get?_origins, Entries.get?_of_mem h.labels hmem]
    exact congrArg some (of_decide_eq_true hstore)
  · rintro ⟨label, horigin⟩
    obtain ⟨handle, hlabel, rfl⟩ := h.exists_handle horigin
    exact ⟨(label, handle), Entries.mem_of_get? hlabel, beq_self_eq_true _⟩

/-- **A reference finds what is there when it is followed**, below its limit. -/
theorem Records.check_reference (h : rs.Records ledger) {r : Reference} {v : Value} {path : Path}
    (hlimit : path.references < r.limit) :
    (¬ ledger.Holds r.store → rs.check (.reference r) v path = refuse path (.outlived r.name)) ∧
      (ledger.Holds r.store → rs.check (.reference r) v path =
        match ledger.first? r.store r.name with
        | some s => rs.check s v path.followed
        | none => refuse path (.notFound r.name)) := by
  rw [Registries.check_reference, if_pos hlimit, resolve, ← h.alive_iff, ← h.lookup]
  refine ⟨fun hdead => ?_, fun halive => ?_⟩
  · rw [if_neg hdead]
    rfl
  · rw [if_pos halive]
    cases (rs.contents r.store).get? r.name <;> rfl

/-- **Registries answer by what was done**, whatever that was and through whichever handles.  A handle shows what was
asked for first under each name of the registry that it goes back to, the names in strictly ascending order; so handles
on one registry show the same.  What is no registration in a registry changes nothing of it.  A registration is refused
exactly where the name is taken, and then changes nothing; otherwise it adds this name and no other.  What was asked for
first stays so and is found, whatever comes later.  And below its limit a reference comes to what is there when it is
followed, however it was made: it has outlived its registry if no handle goes back to that any more, it is not found if
nothing was asked for under its name, and otherwise it leads to what was asked for first. -/
theorem sessions_follow_ledger (ops : List Operation) :
    let rs := empty.performAll ops
    let ledger := Ledger.empty.afterAll ops
    (∀ label origin, ledger.origins.get? label = some origin →
      origin < ledger.created ∧ rs.Shows label (ledger.first? origin)) ∧
    (∀ op origin, (∀ label name s, op = .register label name s → ledger.origins.get? label ≠ some origin) →
      ∀ label, (ledger.after op).origins.get? label = some origin →
        (rs.perform op).1.Shows label (ledger.first? origin)) ∧
    (∀ label origin name s, ledger.origins.get? label = some origin → ledger.first? origin name = none →
      ∀ label' origin', ledger.origins.get? label' = some origin' →
        (rs.perform (.register label name s)).1.Shows label' fun name' =>
          if origin' = origin ∧ name' = name then some s else ledger.first? origin' name') ∧
    (∀ origin name s, ledger.first? origin name = some s → ∀ later,
      (ledger.afterAll later).first? origin name = some s ∧
        ∀ label, (ledger.afterAll later).origins.get? label = some origin →
          ((rs.performAll later).perform (.get label name)).2 = .found (some s)) ∧
    (∀ label origin name, ledger.origins.get? label = some origin →
      ∃ r, rs.perform (.reference label name) = (rs, .reference r) ∧
        ∀ later v path, path.references < r.limit →
          let rs' := rs.performAll later
          let ledger' := ledger.afterAll later
          (¬ ledger'.Holds origin → rs'.check (.reference r) v path = refuse path (.outlived name)) ∧
          (ledger'.Holds origin → rs'.check (.reference r) v path =
            match ledger'.first? origin name with
            | some s => rs'.check s v path.followed
            | none => refuse path (.notFound name))) := by
  intro rs ledger
  have records : rs.Records ledger := records_empty.performAll ops
  refine ⟨fun label origin horigin => ⟨?_, records.shows horigin⟩, fun op origin hop label horigin => ?_,
    fun label origin name s horigin hfree label' origin' horigin' => ?_,
    fun origin name s hfirst later => ⟨Ledger.first?_afterAll_of_some later hfirst, fun label horigin => ?_⟩,
    fun label origin name horigin => ?_⟩
  · obtain ⟨handle, hlabel, rfl⟩ := records.exists_handle horigin
    exact records.created ▸ records.reached label handle hlabel
  · have hshows := (records.perform op).shows horigin
    rwa [funext (Ledger.first?_after hop)] at hshows
  · have hrecords := records.perform (.register label name s)
    rw [Ledger.after_register horigin] at hrecords
    have hshows := hrecords.shows horigin'
    rwa [funext (Ledger.first?_of_free hfree s origin')] at hshows
  · rw [((records.performAll later).shows horigin).get name, Ledger.first?_afterAll_of_some later hfirst]
  · obtain ⟨handle, hlabel, rfl⟩ := records.exists_handle horigin
    refine ⟨handle.reference name, by rw [perform, through_eq hlabel], fun later v path hlimit => ?_⟩
    exact (records.performAll later).check_reference hlimit

/-- Two registries, the first under two labels, of which one has a limit of its own and one is gone again. -/
def twoRegistries : List Operation :=
  [.create "a" none, .clone "a" "b" (some 1), .create "c" none, .register "a" "word" (.string .empty), .drop "a"]

/-- The first registry shows its one name under the label that is left, and the second shows nothing; when that label is
given to another registry, a reference that was made through it has outlived its own. -/
theorem twoRegistries_follow_ledger :
    let rs := empty.performAll twoRegistries
    rs.perform (.register "b" "word" (.boolean none)) = (rs, .refused (.duplicateName "word")) ∧
      rs.perform (.get "c" "word") = (rs, .found none) ∧
      ∃ r, rs.perform (.reference "b" "word") = (rs, .reference r) ∧
        rs.check (.reference r) (.string "x") .root = rs.check (.string .empty) (.string "x") Path.root.followed ∧
        let rs' := rs.performAll [.clone "c" "b" none]
        rs'.check (.reference r) (.string "x") .root = refuse .root (.outlived "word") := by
  intro rs
  obtain ⟨shown, -, -, -, references⟩ := sessions_follow_ledger twoRegistries
  refine ⟨(shown "b" 0 rfl).2.taken "word" _ rfl, (shown "c" 1 rfl).2.get "word", ?_⟩
  obtain ⟨r, hr, hfollow⟩ := references "b" 0 "word" rfl
  have hlimit : Path.root.references < r.limit := by
    obtain rfl : (⟨0, "word", 1⟩ : Reference) = r := Answer.reference.inj (congrArg Prod.snd hr)
    decide
  refine ⟨r, hr, (hfollow [] (.string "x") .root hlimit).2 ⟨"b", rfl⟩, ?_⟩
  refine (hfollow [.clone "c" "b" none] (.string "x") .root hlimit).1 ?_
  rintro ⟨label, horigin⟩
  have hmem : (label, 0) ∈ [("b", 1), ("c", 1)] := Entries.mem_of_get? horigin
  simp at hmem

end Registries
end Schemata
