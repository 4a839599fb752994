import Schemata.Proofs.Plans
/-!
# Irrelevance — what no object declares makes no difference

Where every object strips what it does not declare, entries under other names are never looked at, nor is the order of
entries, nor whether an undefined one is there.  Values that differ in nothing else (`Value.SameUnder`) are validated to
one and the same outcome (`Registries.check_eq_of_sameUnder`): not only is the verdict the same, but everything that is
done on the way to it, and whatever a user's function is given.
-/
namespace Schemata

/-- **The same value but for what stands under other names**: the same item by item, and entry by entry under the given
names, where a missing entry is an undefined one. -/
inductive Value.SameUnder (names : String → Prop) : Value → Value → Prop where
  | plain {v : Value} : v.array? = none → v.object? = none → SameUnder names v v
  | array {items items' : List Value} : List.Forall₂ (SameUnder names) items items' →
      SameUnder names (.array items) (.array items')
  | object {entries entries' : Entries Value} :
      (∀ name, names name → SameUnder names ((Value.object entries).get name) ((Value.object entries').get name)) →
      SameUnder names (.object entries) (.object entries')

/-- A node that looks at no entries but those under the given names: an object strips all others, and a check of a
user's may look at anything. -/
def Schema.Strips (names : String → Prop) : Schema → Prop
  | .object shape => shape.unknownKeys = .strip ∧ ∀ name ∈ shape.keys, names name
  | .custom _ => False
  | _ => True

/-- In strip mode the entries make no difference once the fields have their verdicts. -/
theorem Shape.assemble_of_strip {s : Shape Check} (h : s.unknownKeys = .strip) (path : Path)
    (entries entries' : Entries Value) : s.assemble path entries = s.assemble path entries' := by
  funext verdicts
  simp only [assemble, unknownIssues, carriedOver, h]

namespace Value.SameUnder

variable {names : String → Prop} {v w : Value}

theorem isUndefined (h : v.SameUnder names w) : v.isUndefined = w.isUndefined := by
  cases h <;> rfl

theorem isNull (h : v.SameUnder names w) : v.isNull = w.isNull := by
  cases h <;> rfl

end Value.SameUnder

namespace Registries

variable {rs : Registries} {names : String → Prop}

/-- **A call about the same value but for other names comes to the same.** -/
theorem validate_eq_of_sameUnder (c : Call) : (∀ t, rs.Reaches c.schema t → t.Strips names) →
    ∀ {w : Value}, c.value.SameUnder names w → rs.validate c = rs.validate ⟨c.schema, w, c.path⟩ := by
  induction c using rs.call_induction with
  | step c ih =>
    intro strips w hvalue
    obtain ⟨s, v, path⟩ := c
    dsimp only at strips hvalue
    have own := strips s (.here s)
    have made : ∀ {t : Schema} {u u' : Value} {q : Path}, rs.Calls ⟨s, v, path⟩ ⟨t, u, q⟩ → u.SameUnder names u' →
        rs.validate ⟨t, u, q⟩ = rs.validate ⟨t, u', q⟩ := fun hd hu =>
      ih _ hd (fun t ht => strips t (reaches_of_calls hd ht)) hu
    rw [validate_eq_plan, validate_eq_plan]
    cases s with
    | array rules item =>
      cases hvalue with
      | @array items items' hitems =>
        have hcalls : (items.mapIdx fun i u => (⟨item, u, path.index i⟩ : Call)).map rs.validate =
            (items'.mapIdx fun i u => (⟨item, u, path.index i⟩ : Call)).map rs.validate := by
          refine List.ext_getElem (by simp [hitems.length_eq]) fun i hi hi' => ?_
          simp only [List.getElem_map, List.getElem_mapIdx]
          exact made (.item (List.getElem?_eq_getElem _)) ((List.forall₂_iff_get.1 hitems).2 i _ _)
        simp only [plan, Plan.outcome, hcalls, hitems.length_eq]
      | _ => rfl
    | object shape =>
      cases hvalue with
      | @object entries entries' hentries =>
        have hcalls : (shape.fields.map (fieldCall entries path)).map rs.validate =
            (shape.fields.map (fieldCall entries' path)).map rs.validate := by
          rw [List.map_map, List.map_map]
          exact List.map_congr_left fun f hf => made (.field hf) (hentries f.1 (own.2 f.1 (List.mem_map_of_mem hf)))
        have hmode : (shape.map rs.check).unknownKeys = .strip := own.1
        simp only [plan, Plan.outcome, hcalls, Shape.assemble_of_strip hmode path entries entries']
      | _ => rfl
    | union candidates =>
      cases candidates with
      | nil => rfl
      | cons t rest =>
        have hcandidates : ∀ u ∈ t :: rest, rs.validate ⟨u, v, path⟩ = rs.validate ⟨u, w, path⟩ := fun u hu =>
          made (.candidate hu) hvalue
        exact scanCandidates_map_congr (t :: rest) hcandidates .empty []
    | optional t =>
      simp only [plan, ← hvalue.isUndefined]
      cases hv : v.isUndefined with
      | true => rfl
      | false => exact made (.optional hv) hvalue
    | nullable t =>
      simp only [plan, ← hvalue.isNull]
      cases hv : v.isNull with
      | true => rfl
      | false => exact made (.nullable hv) hvalue
    | nullish t =>
      cases hvalue with
      | plain _ _ => rfl
      | array hitems => exact made (.nullish rfl rfl) (.array hitems)
      | object hentries => exact made (.nullish rfl rfl) (.object hentries)
    | default t supplier =>
      simp only [plan, ← hvalue.isUndefined]
      cases hv : v.isUndefined with
      | true => rfl
      | false => exact made (.default hv) hvalue
    | refine t r =>
      simp only [plan, Plan.outcome, made .refine hvalue]
    | transform t m =>
      simp only [plan, Plan.outcome, made .transform hvalue]
    | reference r =>
      simp only [plan]
      split
      · rfl
      · rename_i hlimit
        cases hr : rs.resolve r with
        | ok t => exact made (.reference (Nat.lt_of_not_le hlimit) hr) hvalue
        | error fault => rfl
    | custom check => exact own.elim
    | _ => cases hvalue <;> rfl

/-- A name that some object declares, among the schemas that a schema leads to. -/
def Declares (rs : Registries) (s : Schema) (name : String) : Prop :=
  ∃ shape, rs.Reaches s (.object shape) ∧ name ∈ shape.keys

/-- **What no object declares makes no difference.**  Where all objects that a schema leads to strip what they do not
declare, and no check of a user's is reached, two values that are the same but for names that are nowhere declared come
to one and the same outcome at every place: it calls the same steps in the same order with the same values, is ready or
pending, and ends in the same output with its entries in the same order, or in the same issues in the same order. -/
theorem check_eq_of_sameUnder {s : Schema} (strips : ∀ shape, rs.Reaches s (.object shape) → shape.unknownKeys = .strip)
    (library : ∀ check, ¬ rs.Reaches s (.custom check)) {v w : Value} (h : v.SameUnder (rs.Declares s) w)
    (path : Path) : rs.check s v path = rs.check s w path := by
  refine validate_eq_of_sameUnder ⟨s, v, path⟩ (fun t ht => ?_) h
  cases t with
  | object shape => exact ⟨strips shape ht, fun name hname => ⟨shape, ht, hname⟩⟩
  | custom check => exact library check ht
  | _ => trivial

/-- A text that is not empty, which is found out late. -/
def headword : Schema :=
  .refine (.string .empty) ⟨fun v => v.string? != some "", "must not be empty", ⟨some "word", .deferred 1⟩⟩

def lexicon : Registries := ⟨[[("word", headword)]], [("r", ⟨0, 1⟩)]⟩

/-- A headword and its kind, which is a noun if nothing is said. -/
def lexeme : Shape Schema :=
  ⟨[("word", .reference ⟨0, "word", 1⟩), ("kind", .default (.string .empty) (.fixed (.string "noun")))], .strip, none⟩

def lexemes : Schema := .array .empty (.object lexeme)

/-- All schemas that the lexemes lead to. -/
def lexemeSchemas : List Schema :=
  [lexemes, .object lexeme, .reference ⟨0, "word", 1⟩, headword, .default (.string .empty) (.fixed (.string "noun")),
    .string .empty]

theorem reaches_lexemes {t : Schema} (h : lexicon.Reaches lexemes t) : t ∈ lexemeSchemas := by
  have hchildren : ∀ s ∈ lexemeSchemas, ∀ c ∈ s.children, c ∈ lexemeSchemas := by
    simp [lexemeSchemas, lexemes, lexeme, headword, Schema.children]
  refine h.invariant (P := (· ∈ lexemeSchemas)) (fun s c hs hc => hchildren s hs c hc) (fun r s hr hs => ?_)
    List.mem_cons_self
  obtain rfl : r = ⟨0, "word", 1⟩ := by simpa [lexemeSchemas, lexemes, headword] using hr
  obtain rfl := Except.ok.inj hs
  simp [lexemeSchemas]

theorem eq_lexeme_of_reaches {shape : Shape Schema} (h : lexicon.Reaches lexemes (.object shape)) : shape = lexeme := by
  simpa [lexemeSchemas, lexemes, headword] using reaches_lexemes h

/-- Entries in another order, a note that nobody asked for, and a kind that is undefined in place of none. -/
theorem lexemes_indifferent :
    let v : Value := .array [.object [("word", .string "a"), ("kind", .undefined)]]
    let w : Value := .array [.object [("note", .null), ("word", .string "a")]]
    (∀ shape, lexicon.Reaches lexemes (.object shape) → shape.unknownKeys = .strip) ∧
      (∀ check, ¬ lexicon.Reaches lexemes (.custom check)) ∧ v.SameUnder (lexicon.Declares lexemes) w ∧
      lexicon.check lexemes v .root = lexicon.check lexemes w .root ∧
      ((lexicon.check lexemes w .root).settle .fresh).result =
        .ok (.array [.object [("word", .string "a"), ("kind", .string "noun")]]) := by
  intro v w
  have strips : ∀ shape, lexicon.Reaches lexemes (.object shape) → shape.unknownKeys = .strip := fun shape h => by
    rw [eq_lexeme_of_reaches h]
    rfl
  have library : ∀ check, ¬ lexicon.Reaches lexemes (.custom check) := fun check h => by
    simpa [lexemeSchemas, lexemes, headword] using reaches_lexemes h
  have hsame : v.SameUnder (lexicon.Declares lexemes) w := by
    refine .array (.cons (.object ?_) .nil)
    rintro name ⟨shape, hshape, hname⟩
    obtain rfl := eq_lexeme_of_reaches hshape
    rcases List.mem_pair.1 hname with rfl | rfl <;> exact .plain rfl rfl
  exact ⟨strips, library, hsame, check_eq_of_sameUnder strips library hsame .root, rfl⟩

end Registries
end Schemata
