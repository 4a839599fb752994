import Schemata.Proofs.Calls
import Schemata.Proofs.Timing
/-!
# Shapes — the algebra of declared fields

A shape is made call by call: fields are declared and declared again, taken over from another shape, kept or dropped by
name, and made optional.  Whatever the calls, each name stands once (`Shape.Made.nodup_keys`).  So a shape is known by
its names in order and by what stands under each (`Entries.ext_get?`), and for every call there is one equation for the
names and one for what is looked up.  The laws of the calls follow from these (`Shape.laws_of_made`).
-/
namespace Schemata

variable {α β : Type}

namespace Entries

/-- **Entries are known by their names in order and by what stands under each**, if no name stands twice. -/
theorem ext_get? : ∀ {es es' : Entries α}, es.keys = es'.keys → es.keys.Nodup →
    (∀ key, es.get? key = es'.get? key) → es = es'
  | [], [], _, _, _ => rfl
  | [], _ :: _, hkeys, _, _ => nomatch hkeys
  | _ :: _, [], hkeys, _, _ => nomatch hkeys
  | (k, a) :: rest, (l, b) :: rest', hkeys, hnodup, hget => by
    obtain ⟨rfl, hrest⟩ : k = l ∧ keys rest = keys rest' := List.cons.inj hkeys
    obtain ⟨hk, hnodup⟩ : k ∉ keys rest ∧ (keys rest).Nodup := List.nodup_cons.1 hnodup
    have hab : a = b := by simpa [get?] using hget k
    have htail : rest = rest' := by
      refine ext_get? hrest hnodup fun key => ?_
      by_cases h : k = key
      · -- the first name is in neither tail
        subst h
        rw [(get?_eq_none_iff rest k).2 hk, (get?_eq_none_iff rest' k).2 (hrest ▸ hk)]
      · simpa [get?, h] using hget key
    rw [hab, htail]

/-! ## Names and contents, operation by operation -/

@[simp] theorem keys_mapValues (f : α → β) (es : Entries α) : (mapValues f es).keys = es.keys := by
  simp [keys, mapValues]

@[simp] theorem keys_restrict (keep : String → Bool) (es : Entries α) :
    (restrict keep es).keys = es.keys.filter keep := by
  rw [keys, keys, List.filter_map]
  rfl

@[simp] theorem get?_restrict (keep : String → Bool) : ∀ (es : Entries α) (key : String),
    (restrict keep es).get? key = if keep key then es.get? key else none
  | [], key => by simp [restrict, get?]
  | (k, a) :: rest, key => by
    have ih := get?_restrict keep rest key
    rw [restrict] at ih ⊢
    by_cases hk : k = key
    · subst hk
      cases hkeep : keep k <;> simp [hkeep, get?, ih]
    · cases hkeep : keep k <;> simp [hkeep, get?, hk, ih]

theorem insertAll_cons (e : String × α) (es more : Entries α) :
    es.insertAll (e :: more) = (es.insert e.1 e.2).insertAll more := rfl

/-- **What is written over entries keeps their names and order**; names that are new come behind, in their own order. -/
theorem keys_insertAll : ∀ (more es : Entries α), more.keys.Nodup →
    (es.insertAll more).keys = es.keys ++ more.keys.filter (· ∉ es.keys)
  | [], es, _ => (List.append_nil _).symm
  | (k, a) :: more, es, hnodup => by
    obtain ⟨hk, hnodup⟩ : k ∉ keys more ∧ (keys more).Nodup := List.nodup_cons.1 hnodup
    rw [insertAll_cons, keys_insertAll more (es.insert k a) hnodup, keys_insert, keys_cons]
    by_cases hmem : k ∈ es.keys
    · rw [if_pos hmem, List.filter_cons_of_neg (by simpa using hmem)]
    · rw [if_neg hmem, List.filter_cons_of_pos (by simpa using hmem), List.append_assoc, List.singleton_append]
      have hnew : ∀ name ∈ keys more, (name ∉ es.keys ++ [k]) = (name ∉ es.keys) := fun name hname => by
        have hne : name ≠ k := fun h => hk (h ▸ hname)
        simp [hne]
      congr 2
      exact List.filter_congr fun name hname => by simp only [hnew name hname]

/-- **Under a name stands what was written last.** -/
theorem get?_insertAll : ∀ (more es : Entries α) (key : String), more.keys.Nodup →
    (es.insertAll more).get? key = (more.get? key).or (es.get? key)
  | [], _, _, _ => rfl
  | (k, a) :: more, es, key, hnodup => by
    obtain ⟨hk, hnodup⟩ : k ∉ keys more ∧ (keys more).Nodup := List.nodup_cons.1 hnodup
    rw [insertAll_cons, get?_insertAll more _ key hnodup, get?_insert]
    by_cases h : k = key
    · subst h
      simp [get?, (get?_eq_none_iff more k).2 hk]
    · simp [get?, h]

/-! ## Laws of writing -/

section Laws

variable {es more rest : Entries α}

theorem nodup_keys_restrict (keep : String → Bool) (h : es.keys.Nodup) : (restrict keep es).keys.Nodup :=
  keys_restrict keep es ▸ h.filter keep

/-- **Writing over what was written is writing what was written over.** -/
theorem insertAll_insertAll (hes : es.keys.Nodup) (hmore : more.keys.Nodup) (hrest : rest.keys.Nodup) :
    (es.insertAll more).insertAll rest = es.insertAll (more.insertAll rest) := by
  have hnodup := nodup_keys_insertAll rest hmore
  refine ext_get? ?_ (nodup_keys_insertAll rest (nodup_keys_insertAll more hes)) fun key => ?_
  · rw [keys_insertAll _ _ hrest, keys_insertAll _ _ hmore, keys_insertAll _ _ hnodup, keys_insertAll _ _ hrest,
      List.filter_append, List.append_assoc, List.filter_filter]
    congr 2
    refine List.filter_congr fun name _ => ?_
    by_cases h : name ∈ es.keys <;> simp [h]
  · rw [get?_insertAll _ _ _ hrest, get?_insertAll _ _ _ hmore, get?_insertAll _ _ _ hnodup,
      get?_insertAll _ _ _ hrest, Option.or_assoc]

/-- **Names are left out before writing or after it.** -/
theorem restrict_insertAll (keep : String → Bool) (hes : es.keys.Nodup) (hmore : more.keys.Nodup) :
    restrict keep (es.insertAll more) = (restrict keep es).insertAll (restrict keep more) := by
  have hnodup := nodup_keys_restrict keep hmore
  refine ext_get? ?_ (nodup_keys_restrict keep (nodup_keys_insertAll more hes)) fun key => ?_
  · rw [keys_restrict, keys_insertAll _ _ hmore, keys_insertAll _ _ hnodup, keys_restrict, keys_restrict,
      List.filter_append, List.filter_filter, List.filter_filter]
    congr 1
    refine List.filter_congr fun name _ => ?_
    cases h : keep name <;> simp [h]
  · rw [get?_restrict, get?_insertAll _ _ _ hmore, get?_insertAll _ _ _ hnodup, get?_restrict, get?_restrict]
    cases keep key <;> rfl

/-- **Contents are changed before writing or after it.** -/
theorem mapValues_insertAll (f : α → β) (hes : es.keys.Nodup) (hmore : more.keys.Nodup) :
    mapValues f (es.insertAll more) = (mapValues f es).insertAll (mapValues f more) := by
  have hnodup : (mapValues f more).keys.Nodup := keys_mapValues f more ▸ hmore
  refine ext_get? ?_ (keys_mapValues f _ ▸ nodup_keys_insertAll more hes) fun key => ?_
  · rw [keys_mapValues, keys_insertAll _ _ hmore, keys_insertAll _ _ hnodup, keys_mapValues, keys_mapValues]
  · rw [get?_mapValues, get?_insertAll _ _ _ hmore, get?_insertAll _ _ _ hnodup, get?_mapValues, get?_mapValues]
    cases more.get? key <;> rfl

end Laws

end Entries

namespace Shape

variable {σ : Type}

/-- What stands under a field name. -/
def get? (s : Shape σ) (name : String) : Option σ := Entries.get? s.fields name

/-- **Shapes that declare the same**: the same names in the same order, the same under each of them, and one mode and
one message. -/
structure Equivalent (s t : Shape σ) : Prop where
  keys : s.keys = t.keys
  contents : ∀ name, s.get? name = t.get? name
  unknownKeys : s.unknownKeys = t.unknownKeys
  typeMessage : s.typeMessage = t.typeMessage

theorem Equivalent.of_fields {s t : Shape σ} (hfields : s.fields = t.fields) (hmode : s.unknownKeys = t.unknownKeys)
    (hmessage : s.typeMessage = t.typeMessage) : s.Equivalent t :=
  ⟨congrArg Entries.keys hfields, fun name => congrArg (Entries.get? · name) hfields, hmode, hmessage⟩

theorem Equivalent.refl (s : Shape σ) : s.Equivalent s := .of_fields rfl rfl rfl

/-- Shapes that declare the same are the same, if no name is declared twice. -/
theorem Equivalent.eq {s t : Shape σ} (h : s.Equivalent t) (hnodup : s.keys.Nodup) : s = t := by
  obtain ⟨fields, mode, message⟩ := s
  obtain ⟨fields', mode', message'⟩ := t
  obtain ⟨hkeys, hcontents, rfl, rfl⟩ := h
  obtain rfl := Entries.ext_get? hkeys hnodup hcontents
  rfl

/-- **A shape that calls have made.** -/
inductive Made : Shape Schema → Prop where
  | empty : Made .empty
  | field {s : Shape Schema} (name : String) (content : Schema) : Made s → Made (s.field name content)
  | extend {s t : Shape Schema} : Made s → Made t → Made (s.extend t)
  | pick {s : Shape Schema} (names : List String) : Made s → Made (s.pick names)
  | without {s : Shape Schema} (names : List String) : Made s → Made (s.without names)
  | allOptional {s : Shape Schema} : Made s → Made s.allOptional
  | withUnknownKeys {s : Shape Schema} (mode : UnknownKeys) : Made s → Made (s.withUnknownKeys mode)
  | error {s : Shape Schema} (message : String) : Made s → Made (s.error message)

/-! ## Names and contents -/

@[simp] theorem keys_allOptional (s : Shape Schema) : s.allOptional.keys = s.keys := keys_map s Schema.optional

/-- **No name is declared twice**, whatever the calls. -/
theorem Made.nodup_keys {s : Shape Schema} (h : s.Made) : s.keys.Nodup := by
  induction h with
  | empty => exact List.nodup_nil
  | field name content _ ih => exact Entries.nodup_keys_insert ih name content
  | @extend _ t _ _ ih _ => exact Entries.nodup_keys_insertAll t.fields ih
  | pick names _ ih => exact Entries.nodup_keys_restrict (names.contains ·) ih
  | without names _ ih => exact Entries.nodup_keys_restrict (!names.contains ·) ih
  | @allOptional s _ ih => exact s.keys_allOptional.symm ▸ ih
  | withUnknownKeys _ _ ih => exact ih
  | error _ _ ih => exact ih

theorem keys_field (s : Shape σ) (name : String) (content : σ) :
    (s.field name content).keys = if name ∈ s.keys then s.keys else s.keys ++ [name] :=
  Entries.keys_insert name content s.fields

theorem get?_field (s : Shape σ) (name other : String) (content : σ) :
    (s.field name content).get? other = if name = other then some content else s.get? other :=
  Entries.get?_insert name content s.fields other

/-- **Keeping names is dropping the others.** -/
theorem pick_eq_without (s : Shape σ) (names : List String) :
    s.pick names = s.without (s.keys.filter (· ∉ names)) := by
  unfold pick without
  congr 1
  refine List.filter_congr fun f hf => ?_
  have hmem : f.1 ∈ s.keys := List.mem_map_of_mem hf
  by_cases h : f.1 ∈ names <;> simp [h, hmem]

/-- **Shapes that declare the same validate alike.** -/
theorem Equivalent.check_eq {s t : Shape Schema} (h : s.Equivalent t) (hnodup : s.keys.Nodup) (rs : Registries) :
    rs.check (.object s) = rs.check (.object t) := by rw [h.eq hnodup]

/-- **The laws of the calls that make shapes.**  However `a`, `b` and `c` were made: no name stands twice in a shape;
one shape after the other may be taken over in steps or at once; names are kept, or dropped, and fields are made
optional before others are taken over or after; keeping names is dropping the others; a field that is declared again
keeps its place and has the new schema, and all others are as they were.  And shapes that declare the same have one and
the same outcome on every value at every place. -/
theorem laws_of_made {a b c : Shape Schema} (ha : a.Made) (hb : b.Made) (hc : c.Made) (names : List String) :
    a.keys.Nodup ∧
    ((a.extend b).extend c).Equivalent (a.extend (b.extend c)) ∧
    ((a.extend b).pick names).Equivalent ((a.pick names).extend (b.pick names)) ∧
    ((a.extend b).without names).Equivalent ((a.without names).extend (b.without names)) ∧
    (a.extend b).allOptional.Equivalent (a.allOptional.extend b.allOptional) ∧
    (a.pick names).Equivalent (a.without (a.keys.filter (· ∉ names))) ∧
    (∀ name content, name ∈ a.keys →
      (a.field name content).keys = a.keys ∧ (a.field name content).get? name = some content ∧
        ∀ other, other ≠ name → (a.field name content).get? other = a.get? other) ∧
    (a.Equivalent b → ∀ (rs : Registries) v path, rs.check (.object a) v path = rs.check (.object b) v path) := by
  have hna := ha.nodup_keys
  have hnb := hb.nodup_keys
  have hrestrict : ∀ keep, Entries.restrict keep (a.extend b).fields =
      Entries.insertAll (Entries.restrict keep a.fields) (Entries.restrict keep b.fields) := fun keep =>
    Entries.restrict_insertAll keep hna hnb
  refine ⟨hna, .of_fields ?_ rfl rfl, .of_fields (hrestrict (names.contains ·)) rfl rfl,
    .of_fields (hrestrict (!names.contains ·)) rfl rfl, .of_fields ?_ rfl rfl, ?_,
    fun name content hname => ⟨?_, ?_, fun other hother => ?_⟩, fun h rs v path => ?_⟩
  · exact Entries.insertAll_insertAll hna hnb hc.nodup_keys
  · exact Entries.mapValues_insertAll Schema.optional hna hnb
  · exact pick_eq_without a names ▸ .refl _
  · rw [keys_field, if_pos hname]
  · rw [get?_field, if_pos rfl]
  · rw [get?_field, if_neg (Ne.symm hother)]
  · rw [h.check_eq hna rs]

/-- A size is declared again, and a note and an identity are taken over, one of them under a name that was there: the
first place and the last schema, however the three are put together. -/
theorem laws_of_papers :
    let text : Schema := .string .empty
    let paper : Shape Schema := ((empty.field "id" text).field "size" (.number .empty)).withUnknownKeys .strict
    let sized : Shape Schema := (empty.field "size" (.boolean none)).field "note" text
    let named : Shape Schema := (empty.field "note" (.optional text)).field "id" (.nullable text)
    paper.Made ∧ sized.Made ∧ named.Made ∧
      ((paper.extend sized).extend named).Equivalent (paper.extend (sized.extend named)) ∧
      ((paper.extend sized).extend named).keys = ["id", "size", "note"] ∧
      (paper.extend (sized.extend named)).get? "note" = some (.optional text) ∧
      (paper.field "size" text).keys = paper.keys ∧ (paper.field "size" text).get? "size" = some text := by
  intro text paper sized named
  have hpaper : paper.Made := .withUnknownKeys .strict (.field "size" _ (.field "id" text .empty))
  have hsized : sized.Made := .field "note" text (.field "size" _ .empty)
  have hnamed : named.Made := .field "id" _ (.field "note" _ .empty)
  obtain ⟨-, hassoc, -, -, -, -, hfield, -⟩ := laws_of_made hpaper hsized hnamed []
  obtain ⟨hkeys, hcontent, -⟩ := hfield "size" text (by decide)
  exact ⟨hpaper, hsized, hnamed, hassoc, by decide, rfl, hkeys, hcontent⟩

end Shape
end Schemata
