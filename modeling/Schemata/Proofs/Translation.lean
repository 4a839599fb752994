import Schemata.Proofs.Correspondence
/-!
# Translation — where validation starts is where its reports begin

A path goes into validation in two ways only: calls extend it, and issues carry it.  So validating under a longer path
does the same and comes to the same (`Registries.check_translated`): the same output, or the same issues with the outer
segments before their own.  A reference is the one place where a path decides, by the references that it counts; where
references are reached both paths must count the same.  It is also the one place where a path is put into words, so the
message of a reference that is followed no further quotes the path that it stands at.
-/
namespace Schemata

/-- **An issue and the same issue under a longer path**: the code and the message are the same, unless both say that too
many references were followed and quote the path that they stand at. -/
structure Issue.Translated (outer : List Segment) (i j : Issue) : Prop where
  path : i.path.segments = outer ++ j.path.segments
  code : i.code = j.code
  message : i.message = j.message ∨ ∃ limit, i.message = (ReferenceFault.tooDeep limit i.path).text ∧
    j.message = (ReferenceFault.tooDeep limit j.path).text

/-- Places stand for places under a longer path, which count the same references if that matters. -/
def Correspondence.translation (outer : List Segment) (counted : Prop) : Correspondence where
  place path q := path.segments = outer ++ q.segments ∧ (counted → path.references = q.references)
  issue := Issue.Translated outer
  place_child h s := ⟨by simp only [Path.segments_child, h.1, List.append_assoc], h.2⟩
  issue_mk h code message := ⟨h.1, rfl, .inl rfl⟩

namespace Registries

variable {rs : Registries}

/-- **Calls at translated places are alike**, where paths that meet a reference count the same. -/
theorem translated_alike (outer : List Segment) (counted : Prop) (c : Call) :
    (∀ r, rs.Reaches c.schema (.reference r) → counted) →
      (∀ t, rs.Reaches c.schema t → t.Follows (.translation outer counted)) →
        ∀ {q : Path}, (Correspondence.translation outer counted).place c.path q →
          (Correspondence.translation outer counted).Alike (rs.validate c) (rs.validate ⟨c.schema, c.value, q⟩) := by
  induction c using rs.call_induction with
  | step c ih =>
    intro counts leaves q hplace
    obtain ⟨s, v, path⟩ := c
    dsimp only at counts leaves hplace
    have made : ∀ d, rs.Calls ⟨s, v, path⟩ d → ∀ {q' : Path},
        (Correspondence.translation outer counted).place d.path q' →
          (Correspondence.translation outer counted).Alike (rs.validate d) (rs.validate ⟨d.schema, d.value, q'⟩) :=
      fun d hd => ih d hd (fun r hr => counts r (reaches_of_calls hd hr)) fun t ht => leaves t (reaches_of_calls hd ht)
    by_cases hs : ∀ r, s ≠ .reference r
    · rw [validate_eq_plan, validate_eq_plan]
      have hnode : s.SameNode Eq s := .of_children hs fun _ _ => rfl
      refine (matches_of_sameNode hnode hplace (leaves s (.here s))).alike ?_
      rintro d ⟨t, w, q'⟩ ⟨hcall, hschema, hvalue, hd⟩
      obtain rfl : d.schema = t := hschema
      obtain rfl : d.value = w := hvalue
      exact made d hcall hd
    · obtain ⟨r, hr⟩ := not_forall_not.1 hs
      subst hr
      -- both paths count the same here, so both are followed or neither is
      have hcount : path.references = q.references := hplace.2 (counts r (.here _))
      rw [validate_eq_plan, validate_eq_plan]
      simp only [plan, ← hcount]
      split
      · exact .ready (.cons ⟨hplace.1, rfl, .inr ⟨r.limit, rfl, rfl⟩⟩ .nil)
      · rename_i hlimit
        cases hr : rs.resolve r with
        | ok t =>
          refine made ⟨t, v, path.followed⟩ (.reference (Nat.lt_of_not_le hlimit) hr) ⟨hplace.1, fun _ => ?_⟩
          exact congrArg (· + 1) hcount
        | error fault => exact Correspondence.refuse_alike hplace _ _

/-- **Validation does the same under a longer path.**  Take a schema that reaches no check of a user's, and two paths of
which the one is the other with some segments before it, and which count the same references unless no reference is
reached.  Both validations are ready or both are pending; they call and settle the same steps in the same order, and end
in the same output, or in as many issues in the same order, each with the outer segments before its own and otherwise
the same. -/
theorem check_translated {s : Schema} (library : ∀ check, ¬ rs.Reaches s (.custom check)) {outer : List Segment}
    {path q : Path} (hpath : path.segments = outer ++ q.segments)
    (hcount : (∀ r, ¬ rs.Reaches s (.reference r)) ∨ path.references = q.references) (v : Value) (counters : Counters) :
    let o := rs.check s v path
    let o' := rs.check s v q
    (o.start counters).result.isPending = (o'.start counters).result.isPending ∧
      (o.start counters).log = (o'.start counters).log ∧
      (o.start counters).counters = (o'.start counters).counters ∧
      (o.settle counters).log = (o'.settle counters).log ∧
      (o.settle counters).counters = (o'.settle counters).counters ∧
      (o.settle counters).result.Related (Issue.Translated outer) (o'.settle counters).result := by
  intro o o'
  have leaves : ∀ t, rs.Reaches s t →
      t.Follows (.translation outer (path.references = q.references)) := by
    intro t ht
    cases t with
    | custom check => exact absurd ht (library check)
    | _ => trivial
  have halike := translated_alike outer _ ⟨s, v, path⟩ (fun r hr => hcount.resolve_left fun hnone => hnone r hr) leaves
    ⟨hpath, id⟩
  obtain ⟨hlog, hcounters, hlaunch⟩ := Outcome.Alike.start halike counters
  obtain ⟨hlog', hcounters', hresult⟩ := Outcome.Alike.settle halike counters
  exact ⟨hlaunch.isPending, hlog, hcounters, hlog', hcounters', hresult⟩

/-- A word, or an array of phrases, which are not followed further. -/
def phrases : Registries :=
  ⟨[[("phrase", .union [.string .empty, .array .empty (.reference ⟨0, "phrase", 1⟩)])]], [("r", ⟨0, 1⟩)]⟩

def phrase : Schema := .reference ⟨0, "phrase", 1⟩

/-- All schemas that a phrase leads to. -/
def phraseSchemas : List Schema :=
  [phrase, .union [.string .empty, .array .empty phrase], .string .empty, .array .empty phrase]

theorem library_phrases (check : Check) : ¬ phrases.Reaches phrase (.custom check) := by
  intro h
  have hchildren : ∀ s ∈ phraseSchemas, ∀ c ∈ s.children, c ∈ phraseSchemas := by
    simp [phraseSchemas, phrase, Schema.children]
  have hmem : .custom check ∈ phraseSchemas := by
    refine h.invariant (P := (· ∈ phraseSchemas)) (fun s c hs hc => hchildren s hs c hc) (fun r s hr hs => ?_)
      List.mem_cons_self
    obtain rfl : r = ⟨0, "phrase", 1⟩ := by simpa [phraseSchemas, phrase] using hr
    obtain rfl := Except.ok.inj hs
    simp [phraseSchemas, phrase]
  simp [phraseSchemas, phrase] at hmem

/-- The same phrase at the root and as a note: what refers to the place quotes it, and else the issues are the same. -/
theorem phrase_translated :
    let v : Value := .array [.string "a"]
    let note : Path := Path.root.field "note"
    let issues := fun path => ((phrases.check phrase v path).settle .fresh).result.issues
    (∀ check, ¬ phrases.Reaches phrase (.custom check)) ∧ note.references = Path.root.references ∧
      List.Forall₂ (Issue.Translated [.field "note"]) (issues note) (issues .root) ∧
      (issues .root).map Issue.text = ["(root): expected string, received array",
        "[0]: maximum reference depth 1 exceeded at path '[0]'"] ∧
      (issues note).map Issue.text = ["note: expected string, received array",
        "note[0]: maximum reference depth 1 exceeded at path 'note[0]'"] := by
  intro v note issues
  have hpath : note.segments = [.field "note"] ++ Path.root.segments := rfl
  obtain ⟨-, -, -, -, -, hresult⟩ := check_translated library_phrases hpath (.inr rfl) v .fresh
  exact ⟨library_phrases, rfl, hresult.issues, by decide +kernel, by decide +kernel⟩

end Registries
end Schemata
