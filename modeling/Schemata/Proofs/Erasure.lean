import Schemata.Proofs.Gathering
import Schemata.Proofs.Likeness
import Schemata.Proofs.Tellings
import Schemata.Proofs.Towers
/-!
# Erasure — outputs written as values, sooner or later

A composition writes its outputs as values when it is done; with a part of it erased, the outputs of that part are
written before the rest goes on.  Both come to the same outcome, since what a composition makes of a part shows in the
written outputs of the part alone (`Validator.check_array_congr` and its neighbours).

Writing loses nothing as long as no absent value that a layer writes for an output of its own is written by the part
inside it too.  A `Reading` recovers outputs from values, and `Reading.Fits` says that it does so for whatever a
validator can produce (`Validator.erasure_loses_nothing`).
-/
namespace Schemata

variable {α β : Type}

/-- An output that is something comes from inside. -/
theorem Outcome.ends_of_ends_some {admitted : Bool} {o : Outcome (Verdict α)} {a : α}
    (h : (if admitted then .success none else o.mapSuccess some).Ends (.ok (some a))) : o.Ends (.ok a) := by
  cases admitted with
  | true => cases (ends_ready _ _).1 h
  | false =>
    obtain ⟨b, hb, hab⟩ := (ends_mapSuccess some o (some a)).1 h
    rwa [Option.some.inj hab]

theorem Verdict.map_gather (f : α → β) (before : List Issue) (verdicts : List (Verdict α)) :
    gather before (verdicts.map (Verdict.map f)) = (gather before verdicts).map (List.map f) := by
  have hissues : (verdicts.map (Verdict.map f)).flatMap issues = verdicts.flatMap issues := by
    simp only [List.flatMap_map, issues_map]
  have houtputs : (verdicts.map (Verdict.map f)).filterMap output? = (verdicts.filterMap output?).map f := by
    rw [List.filterMap_map, List.map_filterMap]
    refine List.filterMap_congr fun x _ => ?_
    cases x <;> rfl
  unfold gather allIssues
  rw [hissues, houtputs]
  cases before ++ verdicts.flatMap issues <;> rfl

/-! ## Erased parts -/

namespace Validator

theorem check_array (rules : Rules LengthRule) (item : Validator α) (items : List Value) (path : Path) :
    (array rules item).check (.array items) path =
      (Outcome.join (items.mapIdx fun i v => item.check v (path.index i))).map fun verdicts =>
        (Verdict.gather (rules.violations path items.length) verdicts).map .array := by
  have hitems : (items.mapIdx fun i v => item.check v (path.index i)) =
      (items.mapIdx fun i v => item.run v (path.index i)).map fun o => o.map (Verdict.map item.toValue) :=
    (map_mapIdx _ _ items).symm
  rw [hitems, Outcome.join_map, Outcome.map_map]
  refine (Outcome.map_mapSuccess _ _ _).trans ?_
  congr 1
  funext verdicts
  rw [Verdict.map_gather]
  cases Verdict.gather (rules.violations path items.length) verdicts <;> rfl

/-- **What an array makes of its items shows in their written outputs.** -/
theorem check_array_congr {s : Validator α} {t : Validator β} (h : s.check = t.check) (rules : Rules LengthRule) :
    (array rules s).check = (array rules t).check := by
  funext v path
  cases v with
  | array items => rw [check_array, check_array, h]
  | _ => rfl

theorem check_on_congr {s : Validator α} {t : Validator β} (h : s.check = t.check) (m : Modifier) :
    (m.on s).check = (m.on t).check := by
  funext v path
  rw [Modifier.check_on, Modifier.check_on, h]

theorem check_default_congr {s : Validator α} {t : Validator β} (h : s.check = t.check) (supplier : Supplier) :
    (s.default supplier).check = (t.default supplier).check := by
  funext v path
  rw [check_default, check_default, h]

theorem check_erased (s : Validator α) : s.erased.check = s.check := check_ofCheck s.check

/-! ## What can be produced -/

/-- Some validation can end in this output. -/
def Produces (s : Validator α) (a : α) : Prop := ∃ v path, (s.run v path).Ends (.ok a)

/-- No output that can be produced is written as an absence that the layer admits. -/
def NeverWrites (s : Validator α) (m : Modifier) : Prop := ∀ a, s.Produces a → m.admits (s.toValue a) = false

theorem produces_optional {s : Validator α} {a : α} : s.optional.Produces (some a) → s.Produces a
  | ⟨v, path, h⟩ => ⟨v, path, Outcome.ends_of_ends_some h⟩

theorem produces_nullable {s : Validator α} {a : α} : s.nullable.Produces (some a) → s.Produces a
  | ⟨v, path, h⟩ => ⟨v, path, Outcome.ends_of_ends_some h⟩

theorem produces_nullish {s : Validator α} {a : α} (h : s.nullish.Produces (.present a)) : s.Produces a := by
  obtain ⟨v, path, h⟩ := h
  simp only [nullish] at h
  split at h
  · cases (Outcome.ends_ready _ _).1 h
  · cases (Outcome.ends_ready _ _).1 h
  · obtain ⟨b, hb, hab⟩ := (Outcome.ends_mapSuccess _ _ _).1 h
    exact ⟨_, path, Presence.present.inj hab ▸ hb⟩

theorem produces_default {s : Validator α} {supplier : Supplier} {a : α} (h : (s.default supplier).Produces a) :
    s.Produces a := by
  obtain ⟨v, path, h⟩ := h
  simp only [default] at h
  split at h
  · obtain ⟨answer, -, h⟩ := (Outcome.ends_bind _ _ _).1 h
    cases answer with
    | ok supplied => exact ⟨supplied, path, h⟩
    | error reason => cases (Outcome.ends_ready _ _).1 h
  · exact ⟨v, path, h⟩

theorem produces_array {rules : Rules LengthRule} {item : Validator α} {outputs : List α}
    (h : (array rules item).Produces outputs) : ∀ a ∈ outputs, item.Produces a := by
  intro a ha
  obtain ⟨v, path, h⟩ := h
  cases v with
  | array items =>
    obtain ⟨verdicts, hverdicts, h⟩ := (Outcome.ends_map _ _ _).1 h
    obtain ⟨-, -, rfl⟩ := (Verdict.gather_eq_ok_iff _ _ _).1 h.symm
    obtain ⟨verdict, hmem, ha⟩ := List.mem_filterMap.1 ha
    obtain rfl : verdict = .ok a := by
      cases verdict with
      | ok b => rw [Option.some.inj ha]
      | error r => cases ha
    obtain ⟨o, ho, hends⟩ := exists_mem_of_forall₂ (List.Forall₂.flip (Outcome.ends_join hverdicts)) hmem
    obtain ⟨i, hi, rfl⟩ := List.mem_mapIdx.1 ho
    exact ⟨items[i], path.index i, hends⟩
  | _ => cases (Outcome.ends_ready _ _).1 h

end Validator

/-! ## Recovering outputs -/

/-- A way to recover outputs from values, with the equality of outputs that is meant where values are compared. -/
structure Reading (α : Type) where
  read : Value → Option α
  same : α → α → Bool

namespace Reading

def number : Reading Number := ⟨Value.number?, Number.equals⟩

def string : Reading String := ⟨Value.string?, (· == ·)⟩

def boolean : Reading Bool := ⟨Value.bool?, (· == ·)⟩

/-- What a layer admits is nothing, and any other value something. -/
def orNone (m : Modifier) (r : Reading α) : Reading (Option α) where
  read v := if m.admits v then some none else (r.read v).map some
  same
    | none, none => true
    | some a, some b => r.same a b
    | _, _ => false

def optional (r : Reading α) : Reading (Option α) := r.orNone .optional

def nullable (r : Reading α) : Reading (Option α) := r.orNone .nullable

/-- Undefined and null are themselves, and any other value is something present. -/
def nullish (r : Reading α) : Reading (Presence α) where
  read v :=
    if v.isUndefined then some .undefined else if v.isNull then some .null else (r.read v).map .present
  same
    | .undefined, .undefined => true
    | .null, .null => true
    | .present a, .present b => r.same a b
    | _, _ => false

/-- Outputs of the items of an array, if all of them are recovered. -/
def array (r : Reading α) : Reading (List α) where
  read v := v.array?.bind (List.mapM r.read)
  same as bs := as.isEqv bs r.same

/-- **What a validator can produce is recovered from its written form**, and is equal where the values are. -/
structure Fits (r : Reading α) (s : Validator α) : Prop where
  recovers : ∀ a, s.Produces a → r.read (s.toValue a) = some a
  compares : ∀ a b, s.Produces a → s.Produces b → (s.toValue a).equals (s.toValue b) = r.same a b

theorem fits_number (rules : Rules NumericRule) : number.Fits (.number rules) :=
  ⟨fun _ _ => rfl, fun _ _ _ _ => by simp only [Validator.number, Value.equals, number]⟩

theorem fits_string (rules : Rules TextRule) : string.Fits (.string rules) :=
  ⟨fun _ _ => rfl, fun _ _ _ _ => by simp only [Validator.string, Value.equals, string]⟩

theorem fits_boolean (typeMessage : Option String) : boolean.Fits (.boolean typeMessage) :=
  ⟨fun _ _ => rfl, fun _ _ _ _ => by simp only [Validator.boolean, Value.equals, boolean]⟩

/-- What a layer admits equals nothing that it does not admit. -/
theorem equals_eq_false_of_admits {m : Modifier} {v w : Value} (hv : m.admits v = true) (hw : m.admits w = false) :
    v.equals w = false ∧ w.equals v = false := by
  have hundefined : w.isUndefined = false → Value.undefined.equals w = false ∧ w.equals .undefined = false := by
    cases w <;> exact fun h => ⟨h, h⟩
  have hnull : w.isNull = false → Value.null.equals w = false ∧ w.equals .null = false := by
    cases w <;> exact fun h => ⟨h, h⟩
  cases m with
  | optional =>
    obtain rfl := Value.eq_undefined hv
    exact hundefined hw
  | nullable =>
    cases v with
    | null => exact hnull hw
    | _ => cases hv
  | nullish =>
    cases v with
    | undefined => exact hundefined (Bool.or_eq_false_iff.1 hw).1
    | null => exact hnull (Bool.or_eq_false_iff.1 hw).2
    | _ => cases hv

variable {r : Reading α} {s : Validator α}

/-- **A layer with outputs that may be nothing is read by its absence**, if nothing inside writes that. -/
theorem Fits.orNone {m : Modifier} {t : Validator (Option α)} (hr : r.Fits s) (hs : s.NeverWrites m)
    (hproduces : ∀ {a}, t.Produces (some a) → s.Produces a) (hsome : ∀ a, t.toValue (some a) = s.toValue a)
    (hnone : m.admits (t.toValue none) = true) (hself : (t.toValue none).equals (t.toValue none) = true) :
    (r.orNone m).Fits t := by
  have hpresent : ∀ {a}, t.Produces (some a) → m.admits (s.toValue a) = false := fun ha => hs _ (hproduces ha)
  refine ⟨fun x hx => ?_, fun x y hx hy => ?_⟩
  · cases x with
    | none => exact if_pos hnone
    | some a =>
      rw [hsome]
      simp only [Reading.orNone, hpresent hx, hr.recovers a (hproduces hx), Option.map_some, Bool.false_eq_true, if_false]
  · cases x with
    | none =>
      cases y with
      | none => exact hself
      | some b => rw [hsome]; exact (equals_eq_false_of_admits hnone (hpresent hy)).1
    | some a =>
      cases y with
      | none => rw [hsome]; exact (equals_eq_false_of_admits hnone (hpresent hx)).2
      | some b => rw [hsome, hsome]; exact hr.compares a b (hproduces hx) (hproduces hy)

theorem Fits.optional (hr : r.Fits s) (hs : s.NeverWrites .optional) : r.optional.Fits s.optional :=
  hr.orNone hs Validator.produces_optional (fun _ => rfl) rfl rfl

theorem Fits.nullable (hr : r.Fits s) (hs : s.NeverWrites .nullable) : r.nullable.Fits s.nullable :=
  hr.orNone hs Validator.produces_nullable (fun _ => rfl) rfl rfl

theorem Fits.nullish (hr : r.Fits s) (hs : s.NeverWrites .nullish) : r.nullish.Fits s.nullish := by
  have hpresent : ∀ {a}, s.nullish.Produces (.present a) → Modifier.nullish.admits (s.toValue a) = false :=
    fun ha => hs _ (Validator.produces_nullish ha)
  have hother : ∀ {v a}, Modifier.nullish.admits v = true → s.nullish.Produces (.present a) →
      v.equals (s.toValue a) = false ∧ (s.toValue a).equals v = false :=
    fun hv ha => equals_eq_false_of_admits hv (hpresent ha)
  refine ⟨fun x hx => ?_, fun x y hx hy => ?_⟩
  · cases x with
    | undefined => rfl
    | null => rfl
    | present a =>
      obtain ⟨hundefined, hnull⟩ := Bool.or_eq_false_iff.1 (hpresent hx)
      have hread : r.read (s.toValue a) = some a := hr.recovers a (Validator.produces_nullish hx)
      simp only [Reading.nullish, Validator.nullish, hundefined, hnull, hread, Option.map_some, Bool.false_eq_true, if_false]
  · cases x with
    | present a =>
      cases y with
      | present b => exact hr.compares a b (Validator.produces_nullish hx) (Validator.produces_nullish hy)
      | undefined => exact (hother rfl hx).2
      | null => exact (hother rfl hx).2
    | undefined =>
      cases y with
      | present b => exact (hother rfl hy).1
      | undefined => rfl
      | null => rfl
    | null =>
      cases y with
      | present b => exact (hother rfl hy).1
      | undefined => rfl
      | null => rfl

theorem Fits.default (hr : r.Fits s) (supplier : Supplier) : r.Fits (s.default supplier) where
  recovers a ha := hr.recovers a (Validator.produces_default ha)
  compares a b ha hb := hr.compares a b (Validator.produces_default ha) (Validator.produces_default hb)

theorem mapM_read_map {as : List α} {f : α → Value} (h : ∀ a ∈ as, r.read (f a) = some a) :
    (as.map f).mapM r.read = some as := by
  induction as with
  | nil => rfl
  | cons a as ih =>
    have hrest := ih fun b hb => h b (List.mem_cons_of_mem a hb)
    simp [h a List.mem_cons_self, hrest]

theorem equalItems_map {f : α → Value} {same : α → α → Bool} : ∀ {as bs : List α},
    (∀ a ∈ as, ∀ b ∈ bs, (f a).equals (f b) = same a b) →
      Value.equalItems (as.map f) (bs.map f) = as.isEqv bs same
  | [], [], _ => rfl
  | [], _ :: _, _ => rfl
  | _ :: _, [], _ => rfl
  | a :: as, b :: bs, h => by
    have hrest := equalItems_map fun x hx y hy => h x (List.mem_cons_of_mem a hx) y (List.mem_cons_of_mem b hy)
    rw [List.map_cons, List.map_cons, Value.equalItems, hrest, h a List.mem_cons_self b List.mem_cons_self, List.isEqv]

theorem Fits.array (hr : r.Fits s) (rules : Rules LengthRule) : r.array.Fits (.array rules s) where
  recovers _ has := mapM_read_map fun a ha => hr.recovers a (Validator.produces_array has a ha)
  compares _ _ has hbs := equalItems_map fun a ha b hb =>
    hr.compares a b (Validator.produces_array has a ha) (Validator.produces_array hbs b hb)

end Reading

namespace Validator

theorem neverWrites_number (rules : Rules NumericRule) (m : Modifier) : (number rules).NeverWrites m := fun _ _ => by
  cases m <;> rfl

theorem neverWrites_string (rules : Rules TextRule) (m : Modifier) : (string rules).NeverWrites m := fun _ _ => by
  cases m <;> rfl

theorem NeverWrites.nullable {s : Validator α} (hs : s.NeverWrites .optional) : s.nullable.NeverWrites .optional
  | none, _ => rfl
  | some a, ha => hs a (produces_nullable ha)

theorem settle_check (s : Validator α) (v : Value) (path : Path) (counters : Counters) :
    ((s.check v path).settle counters).result = ((s.run v path).settle counters).result.map s.toValue :=
  congrArg Run.result (Outcome.settle_map _ _ _)

/-- **Nothing is lost when the outputs of a validator are written as values**: neither whether it accepts, nor any issue,
nor which output it was, also where the outputs of parts were written before. -/
structure Erases (s : Validator α) (partly : List Check) (r : Reading α) : Prop where
  /-- Parts that write their outputs sooner make no difference. -/
  partly_eq : ∀ c ∈ partly, c = s.check
  accepts_iff : ∀ v path counters w, ((s.check v path).settle counters).result = .ok w ↔
    ∃ a, ((s.run v path).settle counters).result = .ok a ∧ w = s.toValue a
  refuses_iff : ∀ v path counters report, ((s.check v path).settle counters).result = .error report ↔
    ((s.run v path).settle counters).result = .error report
  recovers : ∀ a, s.Produces a → r.read (s.toValue a) = some a
  injective : ∀ a b, s.Produces a → s.Produces b → s.toValue a = s.toValue b → a = b
  compares : ∀ a b, s.Produces a → s.Produces b → (s.toValue a).equals (s.toValue b) = r.same a b

theorem Erases.of_fits {s : Validator α} {partly : List Check} {r : Reading α} (hr : r.Fits s)
    (hpartly : ∀ c ∈ partly, c = s.check) : s.Erases partly r where
  partly_eq := hpartly
  accepts_iff v path counters w := by
    rw [settle_check]
    cases ((s.run v path).settle counters).result <;> simp [Verdict.map, eq_comm]
  refuses_iff v path counters report := by
    rw [settle_check]
    cases ((s.run v path).settle counters).result <;> simp [Verdict.map]
  recovers := hr.recovers
  injective a b ha hb h := by
    have hread := hr.recovers a ha
    rw [h, hr.recovers b hb] at hread
    exact (Option.some.inj hread).symm
  compares := hr.compares

end Validator

namespace Registries

variable {rs : Registries} {t : Schema} {s : Validator α}

/-- **Trees write outputs at every node, and come to the same.** -/
theorem check_onSchema_congr (h : rs.check t = s.check) (m : Modifier) : rs.check (m.onSchema t) = (m.on s).check :=
  (m.check_onSchema rs t).trans (Validator.check_on_congr ((Validator.check_ofCheck _).trans h) m)

theorem check_default_congr (h : rs.check t = s.check) (supplier : Supplier) :
    rs.check (.default t supplier) = (s.default supplier).check :=
  (rs.check_eq _).trans (Validator.check_default_congr ((Validator.check_ofCheck _).trans h) supplier)

theorem check_array_congr (h : rs.check t = s.check) (rules : Rules LengthRule) :
    rs.check (.array rules t) = (Validator.array rules s).check :=
  (rs.check_eq _).trans (Validator.check_array_congr ((Validator.check_ofCheck _).trans h) rules)

end Registries

namespace Validator

/-- **Validation and erased validation agree, and erasure loses nothing**, in four compositions with any rules.
Undefined, null and a number come back as which of them was validated; undefined, null and a string as nothing,
something that is nothing, and something that is a string; a boolean as itself, given or supplied; and nested arrays as
the rows of a matrix.  It makes no difference where in a composition outputs are written, be it at every node as in the
trees under `rs`. -/
theorem erasure_loses_nothing (rs : Registries) (numbers : Rules NumericRule) (texts : Rules TextRule)
    (words : Option String) (supplier : Supplier) (rows columns : Rules LengthRule) :
    (number numbers).nullish.Erases
      [(number numbers).erased.nullish.check, rs.check (.nullish (.number numbers))]
      Reading.number.nullish ∧
    (string texts).nullable.optional.Erases
      [(string texts).nullable.erased.optional.check, (string texts).erased.nullable.optional.check,
        rs.check (.optional (.nullable (.string texts)))]
      Reading.string.nullable.optional ∧
    ((boolean words).default supplier).Erases
      [((boolean words).erased.default supplier).check, rs.check (.default (.boolean words) supplier)]
      Reading.boolean ∧
    (array rows (array columns (number numbers))).Erases
      [(array rows (array columns (number numbers)).erased).check,
        (array rows (array columns (number numbers).erased)).check,
        rs.check (.array rows (.array columns (.number numbers)))]
      Reading.number.array.array := by
  have hnumber := Reading.fits_number numbers
  have hstring := Reading.fits_string texts
  have hboolean := Reading.fits_boolean words
  have hpresent := neverWrites_string texts .optional
  have hnumbers : rs.check (.number numbers) = (number numbers).check := rs.check_eq _
  have htexts : rs.check (.string texts) = (string texts).check := rs.check_eq _
  have hbooleans : rs.check (.boolean words) = (boolean words).check := rs.check_eq _
  refine ⟨.of_fits (hnumber.nullish (neverWrites_number numbers .nullish)) ?_,
    .of_fits ((hstring.nullable (neverWrites_string texts .nullable)).optional hpresent.nullable) ?_,
    .of_fits (hboolean.default supplier) ?_, .of_fits ((hnumber.array columns).array rows) ?_⟩
  · have herased := check_on_congr (number numbers).check_erased .nullish
    have htree := Registries.check_onSchema_congr hnumbers .nullish
    exact List.forall_mem_cons.2 ⟨herased, List.forall_mem_singleton.2 htree⟩
  · have hinner := check_on_congr (string texts).check_erased .nullable
    have htree := Registries.check_onSchema_congr (Registries.check_onSchema_congr htexts .nullable) .optional
    exact List.forall_mem_cons.2 ⟨check_on_congr (string texts).nullable.check_erased .optional,
      List.forall_mem_cons.2 ⟨check_on_congr hinner .optional, List.forall_mem_singleton.2 htree⟩⟩
  · have herased := check_default_congr (boolean words).check_erased supplier
    have htree := Registries.check_default_congr hbooleans supplier
    exact List.forall_mem_cons.2 ⟨herased, List.forall_mem_singleton.2 htree⟩
  · have hinner := check_array_congr (number numbers).check_erased columns
    have htree := Registries.check_array_congr (Registries.check_array_congr hnumbers columns) rows
    exact List.forall_mem_cons.2 ⟨check_array_congr (array columns (number numbers)).check_erased rows,
      List.forall_mem_cons.2 ⟨check_array_congr hinner rows, List.forall_mem_singleton.2 htree⟩⟩

example (text : String) :
    Reading.string.nullable.optional.read .undefined = some none ∧
      Reading.string.nullable.optional.read .null = some (some none) ∧
      Reading.string.nullable.optional.read (.string text) = some (some (some text)) := ⟨rfl, rfl, rfl⟩

example :
    (string .empty).nullable.optional.Produces none ∧ (string .empty).nullable.optional.Produces (some none) ∧
      (string .empty).nullable.optional.Produces (some (some "a")) :=
  ⟨⟨.undefined, .root, (Outcome.ends_ready _ _).2 rfl⟩, ⟨.null, .root, (Outcome.ends_ready _ _).2 rfl⟩,
    ⟨.string "a", .root, (Outcome.ends_ready _ _).2 rfl⟩⟩

example (x y z : Number) :
    Reading.number.array.array.read (.array [.array [.number x, .number y], .array [], .array [.number z]]) =
      some [[x, y], [], [z]] := rfl

end Validator
end Schemata
