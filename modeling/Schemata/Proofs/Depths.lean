import Schemata.Proofs.Hops
import Schemata.Proofs.Items
import Schemata.Proofs.Pending
import Schemata.Proofs.Places
/-!
# Depths — arrays of arrays, down to a limit

Under a name may stand the arrays whose items are what the name stands for: then a value is accepted that is made of
arrays and of nothing else.  Each level of it follows one more reference, and the limit of the reference says how many
levels there may be.  `Value.places` lists what stands in such a value, depth first; a place is at fault if something
else than an array stands there, or if it is the first beyond the limit, whatever stands there
(`Registries.nested_arrays_exact`).
-/
namespace Schemata

namespace Value

mutual

/-- **What stands in arrays of arrays**, depth first: the value itself and, in order, what stands in its items.  Each
comes with the positions that lead to it, so that the number of these is its depth. -/
def places : Value → List (List Nat × Value)
  | .array items => ([], .array items) :: placesFrom 0 items
  | v => [([], v)]

/-- The places in items, of which the first has the given position. -/
def placesFrom (position : Nat) : List Value → List (List Nat × Value)
  | [] => []
  | v :: rest => v.places.map (fun p => (position :: p.1, p.2)) ++ placesFrom (position + 1) rest

end

/-- The value at a place that is reached by positions alone. -/
def itemAt? (v : Value) (address : List Nat) : Option Value := v.valueAt? (address.map .index)

/-- Something stands at every place on the way. -/
theorem exists_itemAt?_take {v w : Value} {address : List Nat} (h : v.itemAt? address = some w) (n : Nat) :
    ∃ u, v.itemAt? (address.take n) = some u := by
  rw [itemAt?, ← List.take_append_drop n address, List.map_append, valueAt?_append] at h
  obtain ⟨u, hu, -⟩ := Option.bind_eq_some_iff.1 h
  exact ⟨u, hu⟩

/-- Places in items are those in each of them, behind its position. -/
theorem placesFrom_eq : ∀ (items : List Value) (position : Nat),
    placesFrom position items =
      (items.mapIdx fun i v => v.places.map fun p => ((position + i) :: p.1, p.2)).flatten
  | [], _ => rfl
  | v :: rest, position => by
    rw [placesFrom, placesFrom_eq rest, List.mapIdx_cons, List.flatten_cons]
    simp only [Nat.add_zero, Nat.add_assoc, Nat.add_comm 1]

theorem mem_placesFrom_iff (items : List Value) (position : Nat) (p : List Nat × Value) :
    p ∈ placesFrom position items ↔
      ∃ i v, items[i]? = some v ∧ ∃ q ∈ v.places, ((position + i) :: q.1, q.2) = p := by
  rw [placesFrom_eq, List.mem_flatten]
  constructor
  · rintro ⟨l, hl, hp⟩
    obtain ⟨i, hi, rfl⟩ := List.mem_mapIdx.1 hl
    exact ⟨i, items[i], List.getElem?_eq_getElem hi, List.mem_map.1 hp⟩
  · rintro ⟨i, v, hv, hp⟩
    obtain ⟨hi, rfl⟩ := List.getElem?_eq_some_iff.1 hv
    exact ⟨_, List.mem_mapIdx.2 ⟨i, hi, rfl⟩, List.mem_map.2 hp⟩

/-- The value itself comes first, and no position leads to it. -/
theorem exists_places_eq (v : Value) : ∃ rest, v.places = ([], v) :: rest ∧ ∀ p ∈ rest, p.1 ≠ [] := by
  cases v with
  | array items =>
    refine ⟨placesFrom 0 items, rfl, fun p hp => ?_⟩
    obtain ⟨i, v, -, q, -, rfl⟩ := (mem_placesFrom_iff items 0 p).1 hp
    exact List.cons_ne_nil _ _
  | _ => exact ⟨[], rfl, nofun⟩

/-- **The places are those where something stands.** -/
theorem mem_places_iff : ∀ (address : List Nat) (v w : Value),
    (address, w) ∈ v.places ↔ v.itemAt? address = some w
  | [], v, w => by
    obtain ⟨rest, hplaces, hrest⟩ := exists_places_eq v
    have hnot : ([], w) ∉ rest := fun h => hrest _ h rfl
    simp [hplaces, hnot, itemAt?, valueAt?, eq_comm]
  | i :: address, v, w => by
    cases v with
    | array items =>
      have hitem : (i :: address, w) ∈ (Value.array items).places ↔
          ∃ u, items[i]? = some u ∧ (address, w) ∈ u.places := by
        rw [places, List.mem_cons, mem_placesFrom_iff]
        simp
      rw [hitem]
      simp only [mem_places_iff address]
      exact Option.bind_eq_some_iff.symm
    | _ => simp [places, itemAt?, valueAt?, step?, array?]

mutual

/-- **Places are listed depth first**, those in one item before those in the next. -/
theorem pairwise_places : ∀ v : Value, v.places.Pairwise fun p q => p.1 < q.1
  | .array items => by
    refine List.pairwise_cons.2 ⟨fun p hp => ?_, pairwise_placesFrom items 0⟩
    obtain ⟨i, v, -, q, -, rfl⟩ := (mem_placesFrom_iff items 0 p).1 hp
    exact List.nil_lt_cons _ _
  | .undefined | .null | .bool _ | .number _ | .string _ | .object _ => List.pairwise_singleton _ _

theorem pairwise_placesFrom : ∀ (items : List Value) (position : Nat),
    (placesFrom position items).Pairwise fun p q => p.1 < q.1
  | [], _ => List.Pairwise.nil
  | v :: rest, position => by
    refine List.pairwise_append.2 ⟨?_, pairwise_placesFrom rest (position + 1), fun p hp q hq => ?_⟩
    · refine List.pairwise_map.2 ((pairwise_places v).imp fun h => ?_)
      exact List.cons_lt_cons_iff.2 (.inr ⟨rfl, h⟩)
    · obtain ⟨p, -, rfl⟩ := List.mem_map.1 hp
      obtain ⟨i, u, -, q, -, rfl⟩ := (mem_placesFrom_iff rest (position + 1) q).1 hq
      exact List.cons_lt_cons_iff.2 (.inl (by omega))

end

/-- **A place is at fault**: it is the first beyond the limit, or no array and not beyond it.  So many references were
followed to the value whose places these are, and one more for each position that leads on. -/
def AtFault (limit followed : Nat) (p : List Nat × Value) : Prop :=
  followed + p.1.length = limit + 1 ∨ followed + p.1.length ≤ limit ∧ p.2.array? = none

instance (limit followed : Nat) : DecidablePred (AtFault limit followed) := fun _ =>
  inferInstanceAs (Decidable (_ ∨ _))

/-- The issue of a place at fault.  A reference is refused where it stands, so the path there has not counted it. -/
def faultIssue (limit : Nat) (path : Path) (p : List Nat × Value) : Issue :=
  let segments := path.segments ++ p.1.map .index
  if path.references + p.1.length = limit + 1 then
    .custom ⟨segments, limit⟩ (ReferenceFault.tooDeep limit ⟨segments, limit⟩).text
  else ⟨⟨segments, path.references + p.1.length⟩, .invalidArray, mismatchText "array" p.2.typeName⟩

/-- The issues of all places at fault, in their order. -/
def faults (limit : Nat) (path : Path) (v : Value) : List Issue :=
  (v.places.filter fun p => AtFault limit path.references p).map (faultIssue limit path)

theorem faults_of_beyond {limit : Nat} {path : Path} (h : path.references = limit) (v : Value) :
    v.faults limit path.followed = [.custom path (ReferenceFault.tooDeep limit path).text] := by
  obtain ⟨rest, hplaces, hrest⟩ := v.exists_places_eq
  have hhead : AtFault limit path.followed.references ([], v) := .inl (by simp [h])
  have htail : rest.filter (fun p => AtFault limit path.followed.references p) = [] := by
    refine List.filter_eq_nil_iff.2 fun p hp hfault => ?_
    have hlength := List.length_pos_iff.2 (hrest p hp)
    have hfault : AtFault limit path.followed.references p := of_decide_eq_true hfault
    simp only [AtFault, Path.references_followed] at hfault
    omega
  rw [faults, hplaces, List.filter_cons, if_pos (decide_eq_true hhead), htail]
  subst h
  simp [faultIssue]

theorem faults_of_not_array {limit : Nat} {path : Path} (h : path.references ≤ limit) {v : Value}
    (hv : v.array? = none) :
    v.faults limit path = [⟨path, .invalidArray, mismatchText "array" v.typeName⟩] := by
  have hplaces : v.places = [([], v)] := by
    cases v with
    | array items => cases hv
    | _ => rfl
  have hfault : AtFault limit path.references ([], v) := .inr ⟨h, hv⟩
  have hbelow : path.references ≠ limit + 1 := by omega
  rw [faults, hplaces, List.filter_cons, if_pos (decide_eq_true hfault), List.filter_nil]
  simp [faultIssue, hbelow]

/-- **The faults of an array are those of its items**, each seen from its own path with one more reference followed. -/
theorem faults_array {limit : Nat} {path : Path} (h : path.references ≤ limit) (items : List Value) :
    (Value.array items).faults limit path =
      (items.mapIdx fun i v => v.faults limit (path.index i).followed).flatten := by
  have hself : ¬ AtFault limit path.references ([], .array items) := by
    rintro (hbeyond | ⟨-, hnone⟩)
    · simp at hbeyond
      omega
    · cases hnone
  have hshift : ∀ (i : Nat) (p : List Nat × Value),
      (AtFault limit path.references (i :: p.1, p.2) ↔ AtFault limit (path.index i).followed.references p) ∧
        faultIssue limit path (i :: p.1, p.2) = faultIssue limit (path.index i).followed p := by
    intro i p
    have hdepth : path.references + (p.1.length + 1) = path.references + 1 + p.1.length := by omega
    simp [AtFault, faultIssue, Path.index, hdepth]
  rw [faults, places, List.filter_cons, if_neg (by simpa using hself), placesFrom_eq, List.filter_flatten,
    List.map_flatten, map_mapIdx, map_mapIdx]
  congr
  funext i v
  rw [List.filter_map, List.map_map]
  simp only [Function.comp_def, Nat.zero_add, hshift i]
  rfl

theorem mem_faulty_iff (limit : Nat) (v : Value) (address : List Nat) (w : Value) :
    (address, w) ∈ v.places.filter (fun p => AtFault limit 0 p) ↔ v.itemAt? address = some w ∧
      (address.length = limit + 1 ∨ address.length ≤ limit ∧ w.array? = none) := by
  rw [List.mem_filter, mem_places_iff]
  simp [AtFault]

/-- **Nothing is at fault where arrays stand at all places and none is one deeper than the limit.** -/
theorem faults_eq_nil_iff (limit : Nat) (v : Value) : v.faults limit .root = [] ↔
    ∀ address w, v.itemAt? address = some w → w.array?.isSome = true ∧ address.length ≠ limit + 1 := by
  have hnone : v.faults limit .root = [] ↔
      ∀ address w, v.itemAt? address = some w →
        ¬ (address.length = limit + 1 ∨ address.length ≤ limit ∧ w.array? = none) := by
    rw [faults, List.map_eq_nil_iff, List.eq_nil_iff_forall_not_mem]
    refine ⟨fun h address w hw hfault => h _ ((mem_faulty_iff limit v address w).2 ⟨hw, hfault⟩), fun h p hp => ?_⟩
    obtain ⟨hw, hfault⟩ := (mem_faulty_iff limit v p.1 p.2).1 hp
    exact h p.1 p.2 hw hfault
  rw [hnone]
  constructor
  · intro h address w hw
    -- a place further down has one on the way that is the first beyond the limit
    have hwithin : address.length ≤ limit := by
      by_contra hdeep
      obtain ⟨u, hu⟩ := exists_itemAt?_take hw (limit + 1)
      exact h _ u hu (.inl (by rw [List.length_take]; omega))
    refine ⟨?_, by omega⟩
    cases hv : w.array? with
    | some items => rfl
    | none => exact absurd (.inr ⟨hwithin, hv⟩) (h address w hw)
  · rintro h address w hw (hbeyond | ⟨-, hnot⟩)
    · exact (h address w hw).2 hbeyond
    · have hsome := (h address w hw).1
      rw [hnot] at hsome
      cases hsome

end Value

/-- The value, or a report of the issues if there are any. -/
def Verdict.ofIssues {α : Type} (a : α) : List Issue → Verdict α
  | [] => .ok a
  | issues => .error ⟨issues⟩

namespace Verdict

variable {α : Type}

theorem issues_ofIssues (a : α) (found : List Issue) : (ofIssues a found).issues = found := by
  cases found <;> rfl

theorem ofIssues_eq_ok_iff (a b : α) (found : List Issue) : ofIssues a found = .ok b ↔ found = [] ∧ b = a := by
  cases found <;> simp [ofIssues, eq_comm]

theorem ofIssues_eq_error_iff (a : α) (found : List Issue) (r : Report) :
    ofIssues a found = .error r ↔ found ≠ [] ∧ r.issues = found := by
  cases found with
  | nil => simp [ofIssues]
  | cons i is =>
    obtain ⟨issues⟩ := r
    simp [ofIssues, eq_comm]

/-- **Items with their issues make an array with all of these.** -/
theorem gather_ofIssues (found : Nat → α → List Issue) (items : List α) :
    gather [] (items.mapIdx fun i v => ofIssues v (found i v)) = ofIssues items (items.mapIdx found).flatten := by
  have hissues : [] ++ (items.mapIdx fun i v => ofIssues v (found i v)).flatMap issues =
      (items.mapIdx found).flatten := by
    rw [List.nil_append, List.flatMap_def, map_mapIdx]
    simp only [issues_ofIssues]
  cases hall : (items.mapIdx found).flatten with
  | nil =>
    have hnone : ∀ l ∈ items.mapIdx found, l = [] := List.flatten_eq_nil_iff.1 hall
    have hok : (items.mapIdx fun i v => ofIssues v (found i v)) = items.map .ok := by
      refine List.ext_getElem (by simp) fun i hi hi' => ?_
      have hi : i < items.length := by simpa using hi
      have hnil : found i items[i] = [] := hnone _ (List.mem_mapIdx.2 ⟨i, hi, rfl⟩)
      simp [hnil, ofIssues]
    rw [gather_of_nil (hissues.trans hall), hok, List.filterMap_map]
    exact congrArg Except.ok List.filterMap_some
  | cons i is => rw [gather_of_ne_nil (by rw [hissues, hall]; exact List.cons_ne_nil _ _), hissues, hall]; rfl

end Verdict

namespace Registries

variable {rs : Registries} {r : Reference}

/-- Arrays whose items are all checked at once are. -/
theorem check_array_of_items {item : Schema} {items : List Value} {path : Path} {found : Nat → Value → List Issue}
    (h : ∀ i v, rs.check item v (path.index i) = .ready (.ofIssues v (found i v))) :
    rs.check (.array .empty item) (.array items) path =
      .ready (.ofIssues (.array items) (items.mapIdx found).flatten) := by
  have hjoined : Outcome.join (items.mapIdx fun i v => rs.check item v (path.index i)) =
      .ready (items.mapIdx fun i v => .ofIssues v (found i v)) := by
    rw [← Outcome.join_ready, map_mapIdx]
    simp only [h]
  have hchecked : rs.check (.array .empty item) (.array items) path =
      ((Outcome.join (items.mapIdx fun i v => rs.check item v (path.index i))).map (Verdict.gather [])).mapSuccess
        fun outputs => .array (outputs.map id) := rs.check_eq_answer _ _ _
  rw [hchecked, hjoined, Outcome.map_ready, Verdict.gather_ofIssues, Outcome.mapSuccess, Outcome.map_ready]
  cases (items.mapIdx found).flatten <;> simp [Verdict.ofIssues, Verdict.map]

theorem check_array_of_none {item : Schema} {v : Value} (hv : v.array? = none) (path : Path) :
    rs.check (.array .empty item) v path =
      .ready (.ofIssues v [⟨path, .invalidArray, mismatchText "array" v.typeName⟩]) := by
  rw [check_eq_answer]
  cases v with
  | array items => cases hv
  | _ => rfl

/-- One level: the faults of a value are known when those of its items are. -/
theorem check_nested_of_items {path : Path} (h : path.references ≤ r.limit)
    (hitems : ∀ i v, rs.check (.reference r) v (path.index i) =
      .ready (.ofIssues v (v.faults r.limit (path.index i).followed))) (v : Value) :
    rs.check (.array .empty (.reference r)) v path = .ready (.ofIssues v (v.faults r.limit path)) := by
  cases hv : v.array? with
  | none => rw [check_array_of_none hv, Value.faults_of_not_array h hv]
  | some items =>
    cases v with
    | array items => rw [check_array_of_items hitems, Value.faults_array h]
    | _ => cases hv

/-- **Under a name, arrays of what the name stands for**: the places at fault are all that is reported. -/
theorem check_nested (hself : rs.resolve r = .ok (.array .empty (.reference r))) (left : Nat) : ∀ {path : Path},
    path.references + left = r.limit → ∀ v : Value,
      rs.check (.array .empty (.reference r)) v path = .ready (.ofIssues v (v.faults r.limit path)) := by
  induction left with
  | zero =>
    intro path h
    refine check_nested_of_items (Nat.le_of_eq h) fun i v => ?_
    -- the items stand beyond the limit, whatever they are
    have hlast : (path.index i).references = r.limit := h
    rw [check_reference, if_neg (Nat.not_lt.2 (Nat.le_of_eq hlast.symm)), Value.faults_of_beyond hlast]
    rfl
  | succ left ih =>
    intro path h
    refine check_nested_of_items (by omega) fun i v => ?_
    have hmore : (path.index i).references < r.limit := by
      rw [Path.index, Path.references_child]
      omega
    rw [check_reference, if_pos hmore, hself]
    exact ih (by rw [Path.references_followed, Path.index, Path.references_child]; omega) v

/-- **Where nested arrays meet the limit.**  Let a name stand, in a registry that is held, for the arrays of what it
stands for, by a reference that was made from the handle and carries its limit.  Then a value is accepted when an array
stands at each of its places and none of these is one deeper than the limit, and only then, and the output is the value
itself.  Otherwise there is one issue for each place that is no deeper than the limit and holds no array, and one for
each that is the first beyond the limit, whatever it holds; and they come in the order of the places, depth first. -/
theorem nested_arrays_exact {label name : String} {h : Handle} (hheld : rs.handles.get? label = some h)
    (hregistered : rs.get? h name = some (.array .empty (.reference (h.reference name)))) (v : Value) :
    ∃ outcome, rs.validateNamed h name v = .ok outcome ∧ ∀ counters,
      let verdict := (outcome.safeParse counters).result
      ((∃ out, verdict = .ok out) ↔
        ∀ address w, v.itemAt? address = some w → w.array?.isSome = true ∧ address.length ≠ h.limit + 1) ∧
      (∀ out, verdict = .ok out → out = v) ∧
      ∀ report, verdict = .error report → ∃ faulty : List (List Nat × Value),
        faulty.Pairwise (fun p q => p.1 < q.1) ∧
        (∀ address w, (address, w) ∈ faulty ↔ v.itemAt? address = some w ∧
          (address.length = h.limit + 1 ∨ address.length ≤ h.limit ∧ w.array? = none)) ∧
        report.issues = faulty.map (Value.faultIssue h.limit .root) := by
  have halive : rs.alive h.store = true :=
    List.any_eq_true.2 ⟨(label, h), Entries.mem_of_get? hheld, beq_self_eq_true _⟩
  have hself : rs.resolve (h.reference name) = .ok (.array .empty (.reference (h.reference name))) :=
    resolve_eq_ok_iff.2 ⟨halive, hregistered⟩
  have hchecked : rs.check (.array .empty (.reference (h.reference name))) v .root =
      .ready (.ofIssues v (v.faults h.limit .root)) := check_nested hself h.limit (Nat.zero_add h.limit) v
  refine ⟨.ready (.ofIssues v (v.faults h.limit .root)), ?_, fun counters => ?_⟩
  · rw [validateNamed, hregistered]
    exact congrArg Except.ok hchecked
  intro verdict
  have hverdict : verdict = .ofIssues v (v.faults h.limit .root) := (Outcome.parse_of_ready rfl).2.1
  rw [hverdict]
  refine ⟨?_, fun out hout => ((Verdict.ofIssues_eq_ok_iff _ _ _).1 hout).2, fun report hreport => ?_⟩
  · rw [← Value.faults_eq_nil_iff]
    simp [Verdict.ofIssues_eq_ok_iff]
  · exact ⟨_, v.pairwise_places.filter _, Value.mem_faulty_iff h.limit v,
      ((Verdict.ofIssues_eq_error_iff _ _ _).1 hreport).2⟩

/-- Two references may be followed, and three lead to the deepest array: it is at fault, and so is what is no array at
either depth before it. -/
theorem nested_arrays_beyond_two :
    let h : Handle := ⟨0, 2⟩
    let lists : Schema := .array .empty (.reference (h.reference "List"))
    let rs : Registries := ⟨[[("List", lists)]], [("r", h)]⟩
    let v : Value := .array [.array [.array [.array []], .null], .bool true]
    rs.handles.get? "r" = some h ∧ rs.get? h "List" = some lists ∧
      ∃ outcome report, rs.validateNamed h "List" v = .ok outcome ∧ (outcome.safeParse .fresh).result = .error report ∧
        [⟨⟨[.index 0, .index 0, .index 0], 2⟩, .custom, "maximum reference depth 2 exceeded at path '[0][0][0]'"⟩,
          ⟨⟨[.index 0, .index 1], 2⟩, .invalidArray, "expected array, received null"⟩,
          ⟨⟨[.index 1], 1⟩, .invalidArray, "expected array, received boolean"⟩] ⊆ report.issues := by
  intro h lists rs v
  have hheld : rs.handles.get? "r" = some h := rfl
  have hregistered : rs.get? h "List" = some lists := rfl
  obtain ⟨outcome, houtcome, hverdict⟩ := nested_arrays_exact hheld hregistered v
  obtain ⟨haccepted, -, hrefused⟩ := hverdict .fresh
  cases hresult : (outcome.safeParse .fresh).result with
  | ok out => exact absurd rfl (haccepted.1 ⟨out, hresult⟩ [0, 0, 0] (.array []) rfl).2
  | error report =>
    obtain ⟨faulty, -, hfaulty, hissues⟩ := hrefused report hresult
    have hdeepest := (hfaulty [0, 0, 0] (.array [])).2 ⟨rfl, .inl rfl⟩
    have hnull := (hfaulty [0, 1] .null).2 ⟨rfl, .inr ⟨by decide, rfl⟩⟩
    have htrue := (hfaulty [1] (.bool true)).2 ⟨rfl, .inr ⟨by decide, rfl⟩⟩
    have hall : [([0, 0, 0], .array []), ([0, 1], .null), ([1], .bool true)] ⊆ faulty := by
      simp [hdeepest, hnull, htrue]
    refine ⟨hheld, hregistered, outcome, report, houtcome, hresult, ?_⟩
    rw [hissues]
    exact List.map_subset (Value.faultIssue 2 .root) hall

end Registries
end Schemata
