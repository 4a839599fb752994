import Schemata.Proofs.Certainty
import Schemata.Proofs.Gaps
import Schemata.Proofs.Shapes
/-!
# Partial — validating the fields that are there

A shape whose fields are all optional asks about the entries that are there and about nothing else.  A field whose entry
is missing is ready with nothing and leaves nothing behind, so the whole cannot be told from the shape that only keeps
the fields whose entries are there (`Registries.sameRuns_allOptional`).  Where schemas are pure, what an object comes to
is decided field by field: it is accepted exactly when nothing is wrong with any of its entries
(`Registries.Faultless`), and nothing comes to be wrong when fields become optional or optional entries go.
-/
namespace Schemata

/-! ## Shapes with every field optional -/

/-- The declared names that an object has entries under. -/
def Shape.present (shape : Shape Schema) (entries : Entries Value) : List String :=
  shape.keys.filter (· ∈ Entries.keys entries)

namespace Registries

variable {rs : Registries} {shape : Shape Schema} {entries : Entries Value} {path : Path}

theorem validate_optional (rs : Registries) (inner : Schema) (v : Value) (path : Path) :
    rs.validate ⟨.optional inner, v, path⟩ =
      if v.isUndefined then .ready (.ok .undefined) else rs.validate ⟨inner, v, path⟩ := by
  rw [validate_eq_plan, plan]
  cases v.isUndefined <;> rfl

/-- **An optional field is what it was if its entry is there**, and ready with nothing if it is not. -/
theorem validate_optional_field (hpresent : ∀ e ∈ entries, e.2.isUndefined = false) (path : Path) {f : String × Schema}
    (hf : f ∈ shape.fields) : rs.validate (fieldCall entries path (f.1, .optional f.2)) =
      if (shape.present entries).contains f.1 then rs.validate (fieldCall entries path f)
      else .ready (.ok .undefined) := by
  have hcontains : (shape.present entries).contains f.1 = (Entries.get? entries f.1).isSome := by
    have hkey : f.1 ∈ shape.keys := List.mem_map_of_mem hf
    have hget := Entries.get?_eq_none_iff entries f.1
    cases hentry : Entries.get? entries f.1 with
    | none => simp [Shape.present, hget.1 hentry]
    | some v =>
      have hmem : f.1 ∈ Entries.keys entries := not_not.1 fun hn => by simp [hget.2 hn] at hentry
      simp [Shape.present, hkey, hmem]
  rw [fieldCall, validate_optional, hcontains, fieldCall]
  cases hentry : Entries.get? entries f.1 with
  | none => rfl
  | some v =>
    have hv : v.isUndefined = false := hpresent _ (Entries.mem_of_get? hentry)
    simp [hv]

end Registries

namespace Shape

variable {shape : Shape Schema} {entries : Entries Value} {path : Path}

section Undeclared

variable {σ τ : Type} {s : Shape σ} {t : Shape τ} {entries entries' : Entries Value}

@[simp] theorem undeclared_map (s : Shape σ) (f : σ → τ) (entries : Entries Value) :
    (s.map f).undeclared entries = s.undeclared entries := by rw [undeclared, undeclared, keys_map]

theorem unknownIssues_congr (hundeclared : s.undeclared entries = t.undeclared entries')
    (hmode : s.unknownKeys = t.unknownKeys) (path : Path) :
    s.unknownIssues path entries = t.unknownIssues path entries' := by
  rw [unknownIssues, unknownIssues, hmode, hundeclared]

theorem carriedOver_congr (hundeclared : s.undeclared entries = t.undeclared entries')
    (hmode : s.unknownKeys = t.unknownKeys) : s.carriedOver entries = t.carriedOver entries' := by
  rw [carriedOver, carriedOver, hmode, hundeclared]

@[simp] theorem unknownIssues_map (s : Shape σ) (f : σ → τ) (path : Path) (entries : Entries Value) :
    (s.map f).unknownIssues path entries = s.unknownIssues path entries :=
  unknownIssues_congr (undeclared_map s f entries) rfl path

end Undeclared

/-- The same entries are undeclared, whether the names that have no entry are declared or not. -/
theorem undeclared_pick_present (shape : Shape Schema) (entries : Entries Value) :
    (shape.pick (shape.present entries)).undeclared entries = shape.undeclared entries := by
  refine List.filter_congr fun e he => ?_
  have hentry : e.1 ∈ Entries.keys entries := List.mem_map_of_mem he
  have hkeys : (shape.pick (shape.present entries)).keys = shape.keys.filter ((shape.present entries).contains ·) :=
    Entries.keys_restrict _ shape.fields
  have hmem : e.1 ∈ (shape.pick (shape.present entries)).keys ↔ e.1 ∈ shape.keys := by
    rw [hkeys]
    simp [present, hentry]
  simp only [hmem]

/-- Of the fields that are left out nothing comes. -/
theorem assemble_putBack (shape : Shape Schema) (f g : Schema → Check) (path : Path) (entries : Entries Value)
    (verdicts : List (Verdict Value)) :
    (shape.allOptional.map f).assemble path entries
        (putBack (fun field => (shape.present entries).contains field.1) (.ok .undefined) shape.fields verdicts) =
      ((shape.pick (shape.present entries)).map g).assemble path entries verdicts := by
  have hundeclared : (shape.allOptional.map f).undeclared entries =
      ((shape.pick (shape.present entries)).map g).undeclared entries := by
    rw [undeclared_map, undeclared_map, allOptional, undeclared_map, undeclared_pick_present]
  have houtputs : ((shape.allOptional.map f).keys.zip
        (putBack (fun field => (shape.present entries).contains field.1) (.ok .undefined) shape.fields
          verdicts)).filterMap outputField? =
      (((shape.pick (shape.present entries)).map g).keys.zip verdicts).filterMap outputField? := by
    rw [keys_map, keys_allOptional, keys_map, keys, keys, Entries.keys, Entries.keys, List.zip_map_left,
      List.zip_map_left, List.filterMap_map, List.filterMap_map]
    exact filterMap_zip_putBack (fun _ => rfl) shape.fields verdicts
  unfold assemble
  rw [flatMap_putBack (f := Verdict.issues) rfl, unknownIssues_congr hundeclared rfl, carriedOver_congr hundeclared rfl,
    houtputs]

end Shape

/-- **With every field optional an object cannot be told from one of which only the fields are kept whose entries are
there**, if no entry is undefined. -/
theorem Registries.sameRuns_allOptional (rs : Registries) (shape : Shape Schema) {entries : Entries Value}
    (hpresent : ∀ e ∈ entries, e.2.isUndefined = false) (path : Path) :
    (rs.check (.object shape.allOptional) (.object entries) path).SameRuns
      (rs.check (.object (shape.pick (shape.present entries))) (.object entries) path) := by
  have hall := rs.validate_eq_plan ⟨.object shape.allOptional, .object entries, path⟩
  have hpick := rs.validate_eq_plan ⟨.object (shape.pick (shape.present entries)), .object entries, path⟩
  have hfields : (shape.allOptional.fields.map (fieldCall entries path)).map rs.validate =
      shape.fields.map fun f => if (shape.present entries).contains f.1 then rs.validate (fieldCall entries path f)
        else .ready (.ok .undefined) := by
    rw [List.map_map, Shape.allOptional, Shape.map, Entries.mapValues, List.map_map]
    exact List.map_congr_left fun f hf => validate_optional_field hpresent path hf
  simp only [plan, Plan.outcome, hfields, List.map_map] at hall hpick
  unfold validate at hall hpick
  rw [hall, hpick]
  refine Outcome.sameRuns_join_putBack _ shape.fields fun verdicts => ?_
  rw [Shape.assemble_putBack]

/-! ## What stays accepted -/

/-- **Nothing is wrong with the entries of an object**: no field comes to an issue, and no entry is refused for its
name. -/
structure Registries.Faultless (rs : Registries) (shape : Shape Schema) (entries : Entries Value) (path : Path) :
    Prop where
  fields : ∀ f ∈ shape.fields, ∃ x, (rs.validate (fieldCall entries path f)).Certain x ∧ x.issues = []
  names : shape.unknownIssues path entries = []

namespace Registries

variable {rs : Registries} {shape : Shape Schema} {entries : Entries Value} {path : Path}

/-- **A faultless object is accepted**, whatever numbers are drawn. -/
theorem Faultless.settle_check (h : rs.Faultless shape entries path) :
    ∃ out, ∀ counters, ((rs.check (.object shape) (.object entries) path).settle counters).result = .ok out := by
  choose! verdict hverdict using h.fields
  have hissues : ∀ x ∈ shape.fields.map verdict, x.issues = [] :=
    List.forall_mem_map.2 fun f hf => (hverdict f hf).2
  have hnames := (Shape.unknownIssues_map shape rs.check path entries).trans h.names
  have hassemble := (Shape.assemble_eq_ok_iff _).2 ⟨hnames, hissues, rfl⟩
  have hfields : List.Forall₂ (fun d x => (rs.validate d).Certain x) (shape.fields.map (fieldCall entries path))
      (shape.fields.map verdict) := by
    rw [List.forall₂_map_left_iff, List.forall₂_map_right_iff, List.forall₂_same]
    exact fun f hf => (hverdict f hf).1
  have hcertain := certain_of_every (c := ⟨.object shape, .object entries, path⟩) rfl hfields
  beta_reduce at hcertain
  rw [hassemble] at hcertain
  exact ⟨_, hcertain.settle⟩

/-- **What is accepted is faultless**, if each field comes to one verdict. -/
theorem faultless_of_settle (certain : ∀ f ∈ shape.fields, ∃ x, (rs.validate (fieldCall entries path f)).Certain x)
    {counters : Counters} {out : Value}
    (h : ((rs.check (.object shape) (.object entries) path).settle counters).result = .ok out) :
    rs.Faultless shape entries path := by
  have hends : (rs.validate ⟨.object shape, .object entries, path⟩).Ends (.ok out) := h ▸ Outcome.ends_settle _ counters
  obtain ⟨verdicts, hverdicts, hout⟩ := settles_of_ends hends
  beta_reduce at hout
  cases hassemble : (shape.map rs.check).assemble path entries verdicts with
  | error r =>
    rw [hassemble] at hout
    cases hout
  | ok _ =>
    obtain ⟨hnames, hissues, -⟩ := (Shape.assemble_eq_ok_iff _).1 hassemble
    refine ⟨fun f hf => ?_, (Shape.unknownIssues_map shape rs.check path entries).symm.trans hnames⟩
    obtain ⟨x, hx⟩ := certain f hf
    obtain ⟨y, hy, hends⟩ := exists_mem_of_forall₂ hverdicts (List.mem_map_of_mem hf)
    exact ⟨x, hx, hx y hends ▸ hissues y hy⟩

theorem exists_certain_field (pure : ∀ t, rs.Reaches (.object shape) t → t.Pure) {f : String × Schema}
    (hf : f ∈ shape.fields) : ∃ x, (rs.validate (fieldCall entries path f)).Certain x := by
  obtain ⟨_, x, h⟩ := exists_sure (fieldCall entries path f) fun t ht => pure t (.child (List.mem_map_of_mem hf) ht)
  exact ⟨x, h.certain⟩

end Registries

namespace Shape

variable {shape : Shape Schema}

theorem exists_of_mem_allOptional {f : String × Schema} (hf : f ∈ shape.allOptional.fields) :
    ∃ g ∈ shape.fields, f = (g.1, .optional g.2) := by
  obtain ⟨g, hg, rfl⟩ := List.mem_map.1 hf
  exact ⟨g, hg, rfl⟩

end Shape

namespace Registries

variable {rs : Registries} {shape : Shape Schema} {entries : Entries Value} {path : Path}

/-- An optional field comes to nothing, or to what it comes to where it must be there. -/
theorem validate_optional_field_cases (rs : Registries) (entries : Entries Value) (path : Path) (f : String × Schema) :
    rs.validate (fieldCall entries path (f.1, .optional f.2)) = .ready (.ok .undefined) ∨
      rs.validate (fieldCall entries path (f.1, .optional f.2)) = rs.validate (fieldCall entries path f) := by
  rw [fieldCall, validate_optional]
  split
  · exact .inl rfl
  · exact .inr rfl

/-- **A faultless object stays faultless when all fields become optional.** -/
theorem Faultless.allOptional (h : rs.Faultless shape entries path) : rs.Faultless shape.allOptional entries path := by
  refine ⟨fun f hf => ?_, ?_⟩
  · obtain ⟨g, hg, rfl⟩ := Shape.exists_of_mem_allOptional hf
    rcases validate_optional_field_cases rs entries path g with hready | hsame
    · exact ⟨_, hready ▸ Outcome.certain_ready _, rfl⟩
    · exact hsame ▸ h.fields g hg
  · exact (Shape.unknownIssues_map shape Schema.optional path entries).trans h.names

/-- **An object that has lost declared entries is still faultless** where all fields are optional. -/
theorem Faultless.restrict {keep : String → Bool} (hkeep : ∀ name, keep name = false → name ∈ shape.keys)
    (h : rs.Faultless shape.allOptional entries path) :
    rs.Faultless shape.allOptional (Entries.restrict keep entries) path := by
  refine ⟨fun f hf => ?_, ?_⟩
  · obtain ⟨g, -, rfl⟩ := Shape.exists_of_mem_allOptional hf
    cases hkept : keep g.1 with
    | true =>
      have hsame : fieldCall (Entries.restrict keep entries) path (g.1, .optional g.2) =
          fieldCall entries path (g.1, .optional g.2) := by
        rw [fieldCall, fieldCall, Entries.get?_restrict, if_pos hkept]
      exact hsame ▸ h.fields _ hf
    | false =>
      have hgone : fieldCall (Entries.restrict keep entries) path (g.1, .optional g.2) =
          ⟨.optional g.2, .undefined, path.field g.1⟩ := by
        rw [fieldCall, Entries.get?_restrict, hkept]
        rfl
      refine ⟨.ok .undefined, ?_, rfl⟩
      rw [hgone, validate_optional]
      exact Outcome.certain_ready _
  · have hundeclared : shape.allOptional.undeclared (Entries.restrict keep entries) =
        shape.allOptional.undeclared entries := by
      rw [Shape.undeclared, Shape.undeclared, Shape.keys_allOptional, Entries.restrict, Entries.restrict,
        Entries.restrict, List.filter_filter]
      refine List.filter_congr fun e _ => ?_
      cases hkept : keep e.1 with
      | true => exact Bool.and_true _
      | false => simp [hkeep e.1 hkept]
    exact (Shape.unknownIssues_congr hundeclared rfl path).trans h.names

/-- **Optional twice is optional once.** -/
theorem check_allOptional_allOptional (rs : Registries) (shape : Shape Schema) :
    rs.check (.object shape.allOptional.allOptional) = rs.check (.object shape.allOptional) := by
  have htwice : ∀ inner, rs.check (.optional (.optional inner)) = rs.check (.optional inner) := fun inner => by
    funext v path
    have houter := rs.validate_optional (.optional inner) v path
    have hinner := rs.validate_optional inner v path
    unfold validate at houter hinner
    rw [houter, hinner]
    split <;> rfl
  have hfields : shape.allOptional.allOptional.map rs.check = shape.allOptional.map rs.check := by
    simp only [Shape.allOptional, Shape.map, Entries.mapValues, List.map_map, Function.comp_def, htwice]
  funext v path
  rw [check_eq_answer, check_eq_answer, answer, answer, hfields]

/-- **Optional fields are validated exactly where they are there.**  Of an object without undefined entries, the shape
with every field optional makes what the shape makes that keeps only the declared names that have an entry: the same is
recorded, the same is pending, and the same comes of it.  To make every field optional twice makes no difference.  And
where steps and checks are pure, what the shape accepts stays accepted with every field optional, and then without any
of its declared entries, whatever numbers are drawn. -/
theorem allOptional_validates_present (rs : Registries) (shape : Shape Schema) (entries : Entries Value) (path : Path) :
    ((∀ e ∈ entries, e.2.isUndefined = false) →
      (rs.check (.object shape.allOptional) (.object entries) path).SameRuns
        (rs.check (.object (shape.pick (shape.present entries))) (.object entries) path)) ∧
    rs.check (.object shape.allOptional.allOptional) = rs.check (.object shape.allOptional) ∧
    ((∀ t, rs.Reaches (.object shape) t → t.Pure) → ∀ counters out,
      (((rs.check (.object shape) (.object entries) path).settle counters).result = .ok out →
        ∃ out', ∀ counters',
          ((rs.check (.object shape.allOptional) (.object entries) path).settle counters').result = .ok out') ∧
      (((rs.check (.object shape.allOptional) (.object entries) path).settle counters).result = .ok out →
        ∀ deleted : List String, deleted ⊆ shape.keys →
          ∃ out', ∀ counters', ((rs.check (.object shape.allOptional)
            (.object (Entries.restrict (· ∉ deleted) entries)) path).settle counters').result = .ok out')) := by
  refine ⟨fun hpresent => rs.sameRuns_allOptional shape hpresent path, rs.check_allOptional_allOptional shape,
    fun pure counters out => ⟨fun h => ?_, fun h deleted hdeleted => ?_⟩⟩
  · have certain : ∀ f ∈ shape.fields, ∃ x, (rs.validate (fieldCall entries path f)).Certain x := fun f hf =>
      exists_certain_field pure hf
    exact (faultless_of_settle certain h).allOptional.settle_check
  · have certain : ∀ f ∈ shape.allOptional.fields, ∃ x, (rs.validate (fieldCall entries path f)).Certain x := by
      intro f hf
      obtain ⟨g, hg, rfl⟩ := Shape.exists_of_mem_allOptional hf
      rcases validate_optional_field_cases rs entries path g with hready | hsame
      · exact ⟨_, hready ▸ Outcome.certain_ready _⟩
      · exact hsame ▸ exists_certain_field pure hg
    refine ((faultless_of_settle certain h).restrict fun name hgone => hdeleted ?_).settle_check
    simpa using hgone

/-- A text that takes its time to be approved, under a name. -/
def memoTexts : Registries :=
  ⟨[[("text", .refine (.string .empty)
      ⟨fun v => v.string? != some "", "must not be empty", ⟨some "approval", .deferred 2⟩⟩)]], [("texts", ⟨0, 1⟩)]⟩

/-- Such a text, and whether the memo is open, which it is unless told otherwise; whatever else is there is kept. -/
def memo : Shape Schema :=
  ⟨[("text", .reference ⟨0, "text", 1⟩), ("open", .default (.boolean none) (.fixed (.bool true)))], .passthrough, none⟩

theorem pure_memo {t : Schema} (h : memoTexts.Reaches (.object memo) t) : t.Pure := by
  cases h with
  | here => trivial
  | child hc h =>
    obtain rfl | rfl : _ = _ ∨ _ = _ := by simpa [Schema.children, memo] using hc
    · cases h with
      | here => trivial
      | child hc _ => cases hc
      | reference hr h =>
        obtain rfl := Except.ok.inj hr
        cases h with
        | here => trivial
        | child hc h =>
          obtain rfl := List.mem_singleton.1 hc
          cases h with
          | here => trivial
          | child hc _ => cases hc
    · cases h with
      | here => exact ⟨_, rfl⟩
      | child hc h =>
        obtain rfl := List.mem_singleton.1 hc
        cases h with
        | here => trivial
        | child hc _ => cases hc

/-- Where every field is optional nothing is filled in for a missing one: the memo is as one that only knows its text.
And it does without the text. -/
theorem memo_validates_present :
    let entries : Entries Value := [("pinned", .null), ("text", .string "a")]
    (∀ t, memoTexts.Reaches (.object memo) t → t.Pure) ∧
      (memoTexts.check (.object memo.allOptional) (.object entries) .root).SameRuns
        (memoTexts.check (.object (memo.pick ["text"])) (.object entries) .root) ∧
      ((memoTexts.check (.object (memo.pick ["text"])) (.object entries) .root).settle .fresh).result =
        .ok (.object [("text", .string "a"), ("pinned", .null)]) ∧
      (∃ out, ∀ counters,
        ((memoTexts.check (.object memo.allOptional) (.object entries) .root).settle counters).result = .ok out) ∧
      ∃ out, ∀ counters, ((memoTexts.check (.object memo.allOptional) (.object [("pinned", .null)])
        .root).settle counters).result = .ok out := by
  intro entries
  obtain ⟨hsame, -, hpure⟩ := allOptional_validates_present memoTexts memo entries .root
  have pure : ∀ t, memoTexts.Reaches (.object memo) t → t.Pure := fun _ => pure_memo
  have hwhole : ((memoTexts.check (.object memo) (.object entries) .root).settle .fresh).result =
      .ok (.object [("text", .string "a"), ("open", .bool true), ("pinned", .null)]) := rfl
  obtain ⟨out, hout⟩ := (hpure pure .fresh _).1 hwhole
  exact ⟨pure, hsame (by decide), rfl, ⟨out, hout⟩, (hpure pure .fresh out).2 (hout .fresh) ["text"] (by decide)⟩

end Registries
end Schemata
