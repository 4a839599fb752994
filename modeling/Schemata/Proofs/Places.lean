import Schemata.Proofs.Origins
/-!
# Places — issues point into the input

A path is read from the value that was asked about: a name leads into an object and a position into an array
(`Value.valueAt?`).  Every call on the way is about the value that stands where its path leads, or about a declared field
that is missing there (`Registries.stands_of_chain`): a position is taken from an array that has it, a name from an object,
and a reference or an effect stays where it is.  So an issue, which some call raised at its own place, points into the
input, and its code fits what is found there (`Registries.issues_point_into_value`).  A default is left out, since what
it supplies stands nowhere in the input, and so is a user's check, which may report at any place.
-/
namespace Schemata

/-- What a segment leads to: the entry of an object under a name, the item of an array at a position. -/
def Value.step? (v : Value) : Segment → Option Value
  | .field name => v.get? name
  | .index position => v.array?.bind fun items => items[position]?

/-- **The value at a place of another**, if the way leads there. -/
def Value.valueAt? : Value → List Segment → Option Value
  | v, [] => some v
  | v, s :: rest => (v.step? s).bind fun w => w.valueAt? rest

theorem Value.valueAt?_append (q : List Segment) : ∀ (p : List Segment) (v : Value),
    v.valueAt? (p ++ q) = (v.valueAt? p).bind fun w => w.valueAt? q
  | [], _ => rfl
  | s :: p, v => by
    rw [List.cons_append, valueAt?, valueAt?, Option.bind_assoc]
    exact congrArg _ (funext fun w => valueAt?_append q p w)

theorem Value.valueAt?_child {v w : Value} {p : List Segment} (h : v.valueAt? p = some w) (s : Segment) :
    v.valueAt? (p ++ [s]) = w.step? s := by
  rw [valueAt?_append, h, Option.bind_some, valueAt?]
  cases w.step? s <;> rfl

/-- A node that asks about nothing but the input: no default, and no check of a user's. -/
def Schema.Direct : Schema → Prop
  | .default _ _ => False
  | .custom _ => False
  | _ => True

namespace Registries

variable {rs : Registries}

theorem reaches_of_chain {c d : Call} (h : Relation.ReflTransGen rs.Calls c d) {t : Schema}
    (ht : rs.Reaches d.schema t) : rs.Reaches c.schema t := by
  induction h with
  | refl => exact ht
  | tail _ hcall ih => exact ih (reaches_of_calls hcall ht)

/-- **A shape is asked about an object**, on the way from a call: the object stands at a place of what the call is about,
and the shape is asked there. -/
structure Asks (rs : Registries) (c : Call) (place : List Segment) (shape : Shape Schema) (entries : Entries Value) :
    Prop where
  stands : c.value.valueAt? place = some (.object entries)
  asked : ∃ path : Path, path.segments = c.path.segments ++ place ∧
    Relation.ReflTransGen rs.Calls c ⟨.object shape, .object entries, path⟩

/-- A place that is missing: its last segment names a declared field that its object does not have. -/
def Misses (rs : Registries) (c : Call) (place : List Segment) : Prop :=
  ∃ front name shape entries, place = front ++ [.field name] ∧ rs.Asks c front shape entries ∧
    name ∈ shape.keys ∧ Entries.get? entries name = none

/-- **A value stands at a place** of what a call is about; what is missing is undefined. -/
def Stands (rs : Registries) (c : Call) (place : List Segment) (v : Value) : Prop :=
  c.value.valueAt? place = some v ∨ v = .undefined ∧ rs.Misses c place

theorem Misses.valueAt?_eq_none {c : Call} {place : List Segment} (h : rs.Misses c place) :
    c.value.valueAt? place = none := by
  obtain ⟨front, name, shape, entries, rfl, hasks, -, hnone⟩ := h
  rw [Value.valueAt?_child hasks.stands]
  exact hnone

theorem Stands.getD {c : Call} {place : List Segment} {v : Value} (h : rs.Stands c place v) :
    (c.value.valueAt? place).getD .undefined = v := by
  rcases h with h | ⟨rfl, h⟩
  · rw [h]
    rfl
  · rw [h.valueAt?_eq_none]
    rfl

theorem Stands.valueAt? {c : Call} {place : List Segment} {v : Value} (h : rs.Stands c place v) (hv : v ≠ .undefined) :
    c.value.valueAt? place = some v := h.resolve_right fun hmissing => hv hmissing.1

/-- **Every call is about what stands at its place.** -/
theorem stands_of_chain {c d : Call} (direct : ∀ t, rs.Reaches c.schema t → t.Direct)
    (h : Relation.ReflTransGen rs.Calls c d) :
    ∃ place, d.path.segments = c.path.segments ++ place ∧ rs.Stands c place d.value := by
  induction h with
  | refl => exact ⟨[], (List.append_nil _).symm, .inl rfl⟩
  | @tail d e hchain hcall ih =>
    obtain ⟨place, hpath, hstands⟩ := ih
    have hdirect := direct _ (reaches_of_chain hchain (.here d.schema))
    cases hcall with
    | @item rules item items v path i hi =>
      have hthere := hstands.valueAt? Value.noConfusion
      have hstep : c.value.valueAt? (place ++ [.index i]) = items[i]? := Value.valueAt?_child hthere _
      refine ⟨place ++ [.index i], ?_, .inl (hstep.trans hi)⟩
      rw [← List.append_assoc, ← hpath]
      rfl
    | @field shape f entries path hf =>
      have hthere := hstands.valueAt? Value.noConfusion
      have hstep : c.value.valueAt? (place ++ [.field f.1]) = Entries.get? entries f.1 := Value.valueAt?_child hthere _
      refine ⟨place ++ [.field f.1], ?_, ?_⟩
      · rw [← List.append_assoc, ← hpath]
        rfl
      · cases hget : Entries.get? entries f.1 with
        | some w => exact .inl (hstep.trans hget)
        | none =>
          exact .inr ⟨rfl, place, f.1, shape, entries, rfl, ⟨hthere, path, hpath, hchain⟩, List.mem_map_of_mem hf, hget⟩
    | default _ => exact hdirect.elim
    | supplied _ => exact hdirect.elim
    | _ => exact ⟨place, hpath, hstands⟩

/-- **An issue points into what a call is about**, at a place that is there or is a missing field, and its code fits what
is found there: undefined where nothing is. -/
structure Points (rs : Registries) (c : Call) (i : Issue) (place : List Segment) : Prop where
  path : i.path.segments = c.path.segments ++ place
  resolves : (c.value.valueAt? place).isSome = true ∨ rs.Misses c place
  invalidArray : i.code = .invalidArray → ((c.value.valueAt? place).getD .undefined).array? = none
  invalidObject : i.code = .invalidObject → ((c.value.valueAt? place).getD .undefined).object? = none
  size : i.code = .tooSmall ∨ i.code = .tooBig →
    let v := (c.value.valueAt? place).getD .undefined
    v.string? ≠ none ∨ v.number? ≠ none ∨ v.array? ≠ none
  unrecognizedKeys : i.code = .unrecognizedKeys → ∃ front key shape entries, place = front ++ [.field key] ∧
    rs.Asks c front shape entries ∧ shape.unknownKeys = .strict ∧ key ∈ Entries.keys entries ∧ key ∉ shape.keys

theorem points_of_raises {c d : Call} (direct : ∀ t, rs.Reaches c.schema t → t.Direct)
    (hchain : Relation.ReflTransGen rs.Calls c d) {i : Issue} (h : d.Raises i) : ∃ place, rs.Points c i place := by
  obtain ⟨place, hpath, hstands⟩ := stands_of_chain direct hchain
  cases h with
  | here hi hfits =>
    have hfound := hstands.getD
    refine ⟨place, (congrArg Path.segments hi).trans hpath, ?_, ?_, ?_, ?_, ?_⟩
    · rcases hstands with h | ⟨-, h⟩
      · exact .inl (h ▸ rfl)
      · exact .inr h
    · intro hcode
      rw [hcode] at hfits
      rwa [hfound]
    · intro hcode
      rw [hcode] at hfits
      rwa [hfound]
    · intro hcode
      rw [hfound]
      rcases hcode with hcode | hcode <;> rwa [hcode] at hfits
    · intro hcode
      rw [hcode] at hfits
      exact hfits.elim
  | @undeclared shape entries path key hstrict hkey hnot =>
    have hthere := hstands.valueAt? Value.noConfusion
    have hstep : c.value.valueAt? (place ++ [.field key]) = Entries.get? entries key := Value.valueAt?_child hthere _
    have hsome : (Entries.get? entries key).isSome = true := by
      cases hget : Entries.get? entries key with
      | none => exact absurd hkey ((Entries.get?_eq_none_iff entries key).1 hget)
      | some w => rfl
    refine ⟨place ++ [.field key], ?_, .inl (hstep ▸ hsome), nofun, nofun, nofun, fun _ => ?_⟩
    · rw [← List.append_assoc, ← hpath]
      rfl
    · exact ⟨place, key, shape, entries, rfl, ⟨hthere, path, hpath, hchain⟩, hstrict, hkey, hnot⟩

/-- **Every issue points into the input.** -/
theorem issues_point_into_value {s : Schema} (direct : ∀ t, rs.Reaches s t → t.Direct) (v : Value) (path : Path)
    (counters : Counters) : ∀ i ∈ ((rs.check s v path).settle counters).result.issues,
      ∃ place, rs.Points ⟨s, v, path⟩ i place := by
  intro i hi
  have library : ∀ check, ¬ rs.Reaches s (.custom check) := fun check h => direct _ h
  obtain ⟨d, hchain, hraises⟩ := exists_raises_of_ends ⟨s, v, path⟩ library (Outcome.ends_settle _ counters) hi
  exact points_of_raises direct hchain hraises

/-- Objects that hold a word and nothing else. -/
def wordRecords : Schema := .array .empty (.object ⟨[("word", .string .empty)], .strict, none⟩)

theorem direct_wordRecords {t : Schema} (h : empty.Reaches wordRecords t) : t.Direct := by
  cases h with
  | here => trivial
  | child hc h =>
    obtain rfl := List.mem_singleton.1 hc
    cases h with
    | here => trivial
    | child hc h =>
      obtain rfl := List.mem_singleton.1 hc
      cases h with
      | here => trivial
      | child hc _ => cases hc

/-- A word that is missing and a key too many, both in the second of two objects. -/
theorem wordRecords_point_into_value :
    let v : Value := .array [.object [("word", .string "a")], .object [("note", .null)]]
    let issues := ((empty.check wordRecords v .root).settle .fresh).result.issues
    (∀ t, empty.Reaches wordRecords t → t.Direct) ∧
      issues.map Issue.content = [([.index 1, .field "word"], .invalidType, "expected string, received undefined"),
        ([.index 1, .field "note"], .unrecognizedKeys, "unrecognized key 'note'")] ∧
      ∀ i ∈ issues, ∃ place, empty.Points ⟨wordRecords, v, .root⟩ i place :=
  ⟨fun _ => direct_wordRecords, rfl, issues_point_into_value (fun _ => direct_wordRecords) _ .root .fresh⟩

end Registries
end Schemata
