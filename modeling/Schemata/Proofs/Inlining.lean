import Schemata.Proofs.Correspondence
import Schemata.Proofs.Registering
/-!
# Inlining — a reference is as good as what it leads to

`Schema.graft` puts a schema in the place of every reference of a tree, and `Registries.inlined` does so again and again
with what is registered, as deep as there are references to follow.  Where every reference leads somewhere, no chain of
references is longer than their limits, and no check of a user's looks at how many were followed, nobody can tell a tree
from the inlined one (`Registries.inlined_alike`): what differs is the count that the paths carry.
-/
namespace Schemata

namespace Schema

mutual

/-- **The tree with a schema in the place of each reference.** -/
def graft (f : Reference → Schema) : Schema → Schema
  | .array rules item => .array rules (item.graft f)
  | .object ⟨fields, unknownKeys, typeMessage⟩ => .object ⟨graftFields f fields, unknownKeys, typeMessage⟩
  | .union candidates => .union (graftAll f candidates)
  | .optional inner => .optional (inner.graft f)
  | .nullable inner => .nullable (inner.graft f)
  | .nullish inner => .nullish (inner.graft f)
  | .default inner supplier => .default (inner.graft f) supplier
  | .refine inner refinement => .refine (inner.graft f) refinement
  | .transform inner mapping => .transform (inner.graft f) mapping
  | .reference r => f r
  | s => s

def graftAll (f : Reference → Schema) : List Schema → List Schema
  | [] => []
  | s :: rest => s.graft f :: graftAll f rest

def graftFields (f : Reference → Schema) : List (String × Schema) → List (String × Schema)
  | [] => []
  | (name, s) :: rest => (name, s.graft f) :: graftFields f rest

end

variable (f : Reference → Schema)

theorem graftAll_eq_map : ∀ l : List Schema, graftAll f l = l.map (graft f)
  | [] => rfl
  | s :: rest => by rw [graftAll, graftAll_eq_map rest, List.map_cons]

theorem graftFields_eq_mapValues : ∀ l : List (String × Schema), graftFields f l = Entries.mapValues (graft f) l
  | [] => rfl
  | (name, s) :: rest => by
    rw [graftFields, graftFields_eq_mapValues rest]
    rfl

theorem graft_object (shape : Shape Schema) : (Schema.object shape).graft f = .object (shape.map (graft f)) := by
  obtain ⟨fields, unknownKeys, typeMessage⟩ := shape
  rw [graft, graftFields_eq_mapValues]
  rfl

/-- **Grafting leaves a node what it is, above grafted subtrees**, unless it is a reference itself. -/
theorem sameNode_graft {s : Schema} (hs : ∀ r, s ≠ .reference r) :
    s.SameNode (fun t t' => t' = t.graft f) (s.graft f) := by
  have hall : ∀ l : List Schema, List.Forall₂ (fun t t' => t' = t.graft f) l (l.map (graft f)) := fun l =>
    List.forall₂_map_right_iff.2 (List.forall₂_same.2 fun _ _ => rfl)
  cases s with
  | string rules => exact .string rules
  | number rules => exact .number rules
  | boolean typeMessage => exact .boolean typeMessage
  | enumeration options message => exact .enumeration options message
  | array rules item => exact .array rules rfl
  | object shape =>
    rw [graft_object]
    refine .object (by simp) rfl rfl ?_
    simp [Shape.map, Entries.mapValues]
  | union candidates =>
    rw [graft, graftAll_eq_map]
    exact .union (hall candidates)
  | optional inner => exact .optional rfl
  | nullable inner => exact .nullable rfl
  | nullish inner => exact .nullish rfl
  | default inner supplier => exact .default supplier rfl
  | refine inner refinement => exact .refine refinement rfl
  | transform inner mapping => exact .transform mapping rfl
  | reference r => exact absurd rfl (hs r)
  | custom check => exact .custom check

theorem children_graft {s : Schema} (hs : ∀ r, s ≠ .reference r) : (s.graft f).children = s.children.map (graft f) := by
  cases s with
  | object shape => simp [graft_object, children, Shape.map, Entries.mapValues]
  | union candidates => simp [graft, children, graftAll_eq_map]
  | reference r => exact absurd rfl (hs r)
  | _ => rfl

theorem graft_ne_reference {s : Schema} (hs : ∀ r, s ≠ .reference r) (r : Reference) : s.graft f ≠ .reference r := by
  cases s with
  | object shape => simp [graft_object]
  | reference r => exact absurd rfl (hs r)
  | _ => simp [graft]

end Schema

namespace Registries

/-- What a reference leads to, with as many references inlined on the way; one that leads nowhere is left as it is. -/
def expansion (rs : Registries) : Nat → Reference → Schema
  | 0, r => .reference r
  | hops + 1, r =>
    match rs.resolve r with
    | .ok s => s.graft (rs.expansion hops)
    | .error _ => .reference r

/-- **The tree with what is registered in the place of each reference**, again and again for so many hops. -/
def inlined (rs : Registries) (hops : Nat) (s : Schema) : Schema := s.graft (rs.expansion hops)

/-- A schema leads to another over so many references. -/
inductive ReachesIn (rs : Registries) : Nat → Schema → Schema → Prop where
  | here (s : Schema) : ReachesIn rs 0 s s
  | child {n : Nat} {s c t : Schema} : c ∈ s.children → ReachesIn rs n c t → ReachesIn rs n s t
  | reference {n : Nat} {r : Reference} {s t : Schema} : rs.resolve r = .ok s → ReachesIn rs n s t →
      ReachesIn rs (n + 1) (.reference r) t

/-- Every reference that is met leads somewhere, and no chain of them is longer than so many hops. -/
structure Grounded (rs : Registries) (hops : Nat) (s : Schema) : Prop where
  registered : ∀ r, rs.Reaches s (.reference r) → ∃ t, rs.resolve r = .ok t
  chains : ∀ n t, rs.ReachesIn n s t → n ≤ hops

variable {rs : Registries} {hops : Nat} {s c : Schema} {r : Reference}

theorem inlined_reference_succ (hr : rs.resolve r = .ok s) :
    rs.inlined (hops + 1) (.reference r) = rs.inlined hops s := by
  simp only [inlined, Schema.graft, expansion, hr]

namespace Grounded

theorem child (h : rs.Grounded hops s) (hc : c ∈ s.children) : rs.Grounded hops c where
  registered r hr := h.registered r (.child hc hr)
  chains n t ht := h.chains n t (.child hc ht)

/-- **A reference that is grounded has a hop left, and leads to what is grounded in the others.** -/
theorem target (h : rs.Grounded hops (.reference r)) :
    ∃ s n, rs.resolve r = .ok s ∧ hops = n + 1 ∧ rs.Grounded n s := by
  obtain ⟨s, hs⟩ := h.registered r (.here _)
  have hone := h.chains 1 s (.reference hs (.here s))
  obtain ⟨n, rfl⟩ : ∃ n, hops = n + 1 := ⟨hops - 1, by omega⟩
  refine ⟨s, n, hs, rfl, fun q hq => h.registered q (.reference hs hq), fun m t ht => ?_⟩
  exact Nat.le_of_succ_le_succ (h.chains (m + 1) t (.reference hs ht))

/-- Behind a chain of references stands a node that is none. -/
theorem exists_node (h : rs.Grounded hops s) : ∃ n t, rs.Grounded n t ∧ (∀ r, t ≠ .reference r) ∧
    rs.inlined hops s = rs.inlined n t := by
  induction hops generalizing s with
  | zero =>
    refine ⟨0, s, h, fun r hr => ?_, rfl⟩
    subst hr
    obtain ⟨_, n, _, hn, _⟩ := h.target
    cases hn
  | succ hops ih =>
    by_cases hs : ∀ r, s ≠ .reference r
    · exact ⟨hops + 1, s, h, hs, rfl⟩
    · obtain ⟨r, hr⟩ := not_forall_not.1 hs
      subst hr
      obtain ⟨t, n, ht, hn, hg⟩ := h.target
      obtain rfl := Nat.succ.inj hn
      rw [inlined_reference_succ ht]
      exact ih hg

/-- **The inlined tree has no reference left.** -/
theorem ne_reference_of_reaches {rs' : Registries} {u t : Schema} (h : rs'.Reaches u t) :
    ∀ {hops : Nat} {s : Schema}, rs.Grounded hops s → rs.inlined hops s = u → ∀ r, t ≠ .reference r := by
  induction h with
  | here u =>
    rintro hops s hg rfl r
    obtain ⟨n, t, -, ht, heq⟩ := hg.exists_node
    rw [heq]
    exact Schema.graft_ne_reference _ ht r
  | child hc _ ih =>
    rintro hops s hg rfl
    obtain ⟨n, t, hgt, ht, heq⟩ := hg.exists_node
    rw [heq, inlined, Schema.children_graft _ ht] at hc
    obtain ⟨c, hmem, rfl⟩ := List.mem_map.1 hc
    exact ih (hgt.child hmem) rfl
  | @reference q _ _ _ _ _ =>
    intro hops s hg hu
    obtain ⟨n, t, -, ht, heq⟩ := hg.exists_node
    exact absurd (heq.symm.trans hu) (Schema.graft_ne_reference _ ht q)

end Grounded

/-- **A tree and the inlined one are alike**, where the limits allow for the hops that are to be followed. -/
theorem inlined_alike (rs rs' : Registries) (c : Call) : ∀ {hops : Nat} {q : Path}, rs.Grounded hops c.schema →
    (∀ r, rs.Reaches c.schema (.reference r) → c.path.references + hops ≤ r.limit) →
      (∀ t, rs.Reaches c.schema t → t.Follows .samePlace) → c.path.segments = q.segments →
        Correspondence.samePlace.Alike (rs.validate c) (rs'.validate ⟨rs.inlined hops c.schema, c.value, q⟩) := by
  induction c using rs.call_induction with
  | step c ih =>
    intro hops q grounded limits leaves hplace
    obtain ⟨s, v, path⟩ := c
    dsimp only at grounded limits leaves hplace
    by_cases hs : ∀ r, s ≠ .reference r
    · rw [validate_eq_plan, validate_eq_plan]
      refine (matches_of_sameNode (s.sameNode_graft _ hs) hplace (leaves _ (.here _))).alike ?_
      rintro d ⟨s', v', q'⟩ ⟨hcall, hschema, hvalue, hd⟩
      dsimp only at hschema hvalue hd
      subst hschema hvalue
      have hhops := Schema.hops_eq_zero hs
      refine ih d hcall (grounded.child (mem_children_of_calls hcall hhops)) (fun r hr => ?_)
        (fun t ht => leaves t (reaches_of_calls hcall ht)) hd
      rw [references_of_calls hcall, hhops]
      exact limits r (reaches_of_calls hcall hr)
    · obtain ⟨r, hr⟩ := not_forall_not.1 hs
      subst hr
      -- one hop is used up here, and the count of the path has grown by it
      obtain ⟨t, n, ht, rfl, hg⟩ := Grounded.target grounded
      have hlimit := limits r (.here _)
      have hlt : path.references < r.limit := by omega
      have hplan : rs.validate ⟨.reference r, v, path⟩ = rs.validate ⟨t, v, path.followed⟩ := by
        rw [validate_eq_plan, plan, if_neg (Nat.not_le_of_lt hlt), ht]
        rfl
      rw [hplan]
      dsimp only
      rw [inlined_reference_succ ht]
      refine ih ⟨t, v, path.followed⟩ (.reference hlt ht) hg (fun r' hr' => ?_)
        (fun t' ht' => leaves t' (.reference ht ht')) hplace
      have hlimit' := limits r' (.reference ht hr')
      simp only [Path.references_followed]
      omega

theorem exists_reachesIn_of_reaches {s t : Schema} (h : rs.Reaches s t) : ∃ n, rs.ReachesIn n s t := by
  induction h with
  | here s => exact ⟨0, .here s⟩
  | child hc _ ih =>
    obtain ⟨n, hn⟩ := ih
    exact ⟨n, .child hc hn⟩
  | reference hr _ ih =>
    obtain ⟨n, hn⟩ := ih
    exact ⟨n + 1, .reference hr hn⟩

/-- **Inlining what the references lead to changes nothing that is seen.**  Where every reference leads somewhere, no
chain of references is longer than what the limits leave, and no check of a user's looks at how many were followed,
then a tree and the inlined tree, which has no reference left and asks no registry, are both ready or both pending;
they call and settle the same steps in the same order, and end in the same output or in the same issues in the same
order.  In what order the schemas were registered makes no difference either, nor does it matter whether a reference
was there before. -/
theorem check_inlined {rs : Registries} {s : Schema} {hops : Nat} {path : Path} (grounded : rs.Grounded hops s)
    (limits : ∀ r, rs.Reaches s (.reference r) → path.references + hops ≤ r.limit)
    (leaves : ∀ t, rs.Reaches s t → t.Follows .samePlace) :
    (∀ (rs' : Registries) r, ¬ rs'.Reaches (rs.inlined hops s) (.reference r)) ∧
    (∀ (rs' : Registries) v counters,
      let o := rs.check s v path
      let o' := rs'.check (rs.inlined hops s) v path
      (o.start counters).result.isPending = (o'.start counters).result.isPending ∧
        (o.start counters).log = (o'.start counters).log ∧
        (o.start counters).counters = (o'.start counters).counters ∧
        (o.settle counters).log = (o'.settle counters).log ∧
        (o.settle counters).counters = (o'.settle counters).counters ∧
        (o.settle counters).result.Related (fun i j => i.content = j.content) (o'.settle counters).result) ∧
    (∀ rs₀ l l', registerAll rs₀ l = .ok rs → l.Perm l' → ∃ rs', registerAll rs₀ l' = .ok rs' ∧ rs'.check = rs.check) := by
  refine ⟨fun rs' r hr => Grounded.ne_reference_of_reaches hr grounded rfl r rfl, fun rs' v counters => ?_,
    fun rs₀ l l' hl hperm => ?_⟩
  · have halike := inlined_alike rs rs' ⟨s, v, path⟩ grounded limits leaves rfl
    obtain ⟨hlog, hcounters, hlaunch⟩ := Outcome.Alike.start halike counters
    obtain ⟨hlog', hcounters', hresult⟩ := Outcome.Alike.settle halike counters
    exact ⟨hlaunch.isPending, hlog, hcounters, hlog', hcounters', hresult⟩
  · obtain ⟨rs', hrs', hsame⟩ := registerAll_perm hperm hl
    exact ⟨rs', hrs', check_eq_of_resolve fun r => (hsame.resolve r).symm⟩

/-- A text that is not empty, which is found out late, under a name that is reached through another. -/
def wordBook : Registries :=
  ⟨[[("word", .reference ⟨0, "text", 2⟩),
    ("text", .refine (.string .empty) ⟨fun v => v.string? != some "", "must not be empty", ⟨none, .deferred 1⟩⟩)]],
    [("r", ⟨0, 2⟩)]⟩

def words : Schema := .array .empty (.reference ⟨0, "word", 2⟩)

theorem reachesIn_words {n : Nat} {t : Schema} (h : wordBook.ReachesIn n words t) :
    n ≤ 2 ∧ (∀ r, t = .reference r → r.limit = 2 ∧ ∃ u, wordBook.resolve r = .ok u) ∧ t.Follows .samePlace := by
  cases h with
  | here => exact ⟨by decide, nofun, trivial⟩
  | child hc h =>
    obtain rfl := List.mem_singleton.1 hc
    cases h with
    | here => exact ⟨by decide, fun r hr => by cases hr; exact ⟨rfl, _, rfl⟩, trivial⟩
    | child hc _ => cases hc
    | reference hr h =>
      obtain rfl := Except.ok.inj hr
      cases h with
      | here => exact ⟨by decide, fun r hr => by cases hr; exact ⟨rfl, _, rfl⟩, trivial⟩
      | child hc _ => cases hc
      | reference hr h =>
        obtain rfl := Except.ok.inj hr
        cases h with
        | here => exact ⟨by decide, nofun, trivial⟩
        | child hc h =>
          obtain rfl := List.mem_singleton.1 hc
          cases h with
          | here => exact ⟨by decide, nofun, trivial⟩
          | child hc _ => cases hc

/-- With a limit that just allows for the two hops of each item, the words are checked as the inlined tree checks
them. -/
theorem check_inlined_words :
    let items : Value := .array [.string "a", .string ""]
    wordBook.Grounded 2 words ∧
      (∀ r, wordBook.Reaches words (.reference r) → Path.root.references + 2 ≤ r.limit) ∧
      (∀ t, wordBook.Reaches words t → t.Follows .samePlace) ∧
      ((wordBook.check words items .root).settle .fresh).result.issues.map Issue.content =
        [(([.index 1], .custom, "must not be empty") : List Segment × Code × String)] := by
  intro items
  have grounded : wordBook.Grounded 2 words := by
    refine ⟨fun r hr => ?_, fun n t h => (reachesIn_words h).1⟩
    obtain ⟨n, h⟩ := exists_reachesIn_of_reaches hr
    exact ((reachesIn_words h).2.1 r rfl).2
  have limits : ∀ r, wordBook.Reaches words (.reference r) → Path.root.references + 2 ≤ r.limit := fun r hr => by
    obtain ⟨n, h⟩ := exists_reachesIn_of_reaches hr
    exact ((reachesIn_words h).2.1 r rfl).1.ge
  have leaves : ∀ t, wordBook.Reaches words t → t.Follows .samePlace := fun t ht => by
    obtain ⟨n, h⟩ := exists_reachesIn_of_reaches ht
    exact (reachesIn_words h).2.2
  refine ⟨grounded, limits, leaves, ?_⟩
  obtain ⟨-, -, -, -, -, hresult⟩ := (check_inlined grounded limits leaves).2.1 .empty items .fresh
  have hcontents : ((wordBook.check words items .root).settle .fresh).result.issues.map Issue.content =
      ((empty.check (wordBook.inlined 2 words) items .root).settle .fresh).result.issues.map Issue.content := by
    rw [← List.forall₂_eq_eq_eq, List.forall₂_map_left_iff, List.forall₂_map_right_iff]
    exact hresult.issues
  rw [hcontents]
  decide +kernel

end Registries
end Schemata
