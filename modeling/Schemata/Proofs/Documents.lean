import Schemata.Proofs.Wholes
/-!
# Documents — what a value and a document keep of each other

A document cannot say everything that a value can.  Written and read back, a value is what the document kept of it
(`Value.kept`, `ofJson_toJson`), and nothing more is lost the second time.  A document, on the other side, has two ways
to say some numbers and a value has one.  Read and written again, it is the same document just when every number in it
is said in the way that writing says it (`toJson_ofJson_iff`).
-/
namespace Schemata

open Number (InInt64)

/-- A document that stands somewhere in another, or is that document. -/
inductive Json.Within : Json → Json → Prop where
  | here (j : Json) : Within j j
  | item {k j : Json} {items : List Json} : j ∈ items → Within k j → Within k (.array items)
  | entry {k j : Json} {key : String} {entries : List (String × Json)} :
      (key, j) ∈ entries → Within k j → Within k (.object entries)

/-- A number is said in the way that writing says it: without a point if it is an integer of 64 bits that is a binary
number, with one if it is not. -/
def Json.Plain : Json → Prop
  | .int n => (∃ x : Number, x.Is n) ∧ InInt64 n
  | .float x => x.isFinite = true ∧ ∀ n, x.Is n → ¬ InInt64 n
  | _ => True

namespace Value

mutual

/-- **What a document keeps of a value**: undefined entries are gone, anything else that is undefined or not finite is
null, and no zero has a sign. -/
def kept : Value → Value
  | .undefined => .null
  | .null => .null
  | .bool b => .bool b
  | .number x => if x.isFinite then .number x.unsignedZero else .null
  | .string s => .string s
  | .array items => .array (keptItems items)
  | .object entries => .object (keptEntries entries)

def keptItems : List Value → List Value
  | [] => []
  | v :: rest => v.kept :: keptItems rest

def keptEntries : List (String × Value) → List (String × Value)
  | [] => []
  | (key, v) :: rest => if v.isUndefined then keptEntries rest else (key, v.kept) :: keptEntries rest

end

/-- What was kept is never undefined. -/
theorem isUndefined_kept (v : Value) : v.kept.isUndefined = false := by
  cases v with
  | number x =>
    unfold kept
    split <;> rfl
  | _ => rfl

theorem isUndefined_ofJson (j : Json) : (ofJson j).isUndefined = false := by
  cases j <;> rfl

/-! ## Numbers -/

/-- **The branch for whole numbers writes the integer that the number is.** -/
theorem numberToJson_of_is {x : Number} {n : Int} (h : x.Is n) (hn : InInt64 n) : numberToJson x = .int n := by
  rw [numberToJson, if_pos ((Number.writtenWhole_iff x).2 ⟨n, h, hn⟩), Number.toInt64_of_is h hn]

theorem numberToJson_of_not_is {x : Number} (hfinite : x.isFinite = true) (h : ∀ n, x.Is n → ¬ InInt64 n) :
    numberToJson x = .float x := by
  rw [numberToJson, if_neg (Number.not_writtenWhole h), if_pos hfinite]

theorem numberToJson_of_not_isFinite {x : Number} (h : x.isFinite = false) : numberToJson x = .null := by
  have hnot : ∀ n, x.Is n → ¬ InInt64 n := fun n hn => absurd (h.symm.trans hn.1) Bool.false_ne_true
  rw [numberToJson, if_neg (Number.not_writtenWhole hnot), h]
  rfl

/-- **The three ways to write a number.** -/
theorem numberToJson_cases (x : Number) :
    (∃ n, x.Is n ∧ InInt64 n ∧ numberToJson x = .int n) ∨
      (x.isFinite = true ∧ (∀ n, x.Is n → ¬ InInt64 n) ∧ numberToJson x = .float x) ∨
        (x.isFinite = false ∧ numberToJson x = .null) := by
  by_cases h : ∃ n, x.Is n ∧ InInt64 n
  · obtain ⟨n, hn, hin⟩ := h
    exact .inl ⟨n, hn, hin, numberToJson_of_is hn hin⟩
  · have hnot : ∀ n, x.Is n → ¬ InInt64 n := fun n hn hin => h ⟨n, hn, hin⟩
    cases hfinite : x.isFinite with
    | true => exact .inr (.inl ⟨rfl, hnot, numberToJson_of_not_is hfinite hnot⟩)
    | false => exact .inr (.inr ⟨rfl, numberToJson_of_not_isFinite hfinite⟩)

theorem numberToJson_eq_int_iff (x : Number) (n : Int) : numberToJson x = .int n ↔ x.Is n ∧ InInt64 n := by
  refine ⟨fun h => ?_, fun h => numberToJson_of_is h.1 h.2⟩
  rcases numberToJson_cases x with ⟨k, hk, hin, heq⟩ | ⟨-, -, heq⟩ | ⟨-, heq⟩
  · obtain rfl : k = n := Json.int.inj (heq.symm.trans h)
    exact ⟨hk, hin⟩
  · cases heq.symm.trans h
  · cases heq.symm.trans h

theorem numberToJson_eq_float_iff (x : Number) :
    numberToJson x = .float x ↔ x.isFinite = true ∧ ∀ n, x.Is n → ¬ InInt64 n := by
  refine ⟨fun h => ?_, fun h => numberToJson_of_not_is h.1 h.2⟩
  rcases numberToJson_cases x with ⟨k, -, -, heq⟩ | ⟨hfinite, hnot, -⟩ | ⟨-, heq⟩
  · cases heq.symm.trans h
  · exact ⟨hfinite, hnot⟩
  · cases heq.symm.trans h

theorem numberToJson_unsignedZero (x : Number) : numberToJson x.unsignedZero = numberToJson x := by
  unfold Number.unsignedZero
  split
  · rename_i h
    have hin : InInt64 0 := by decide
    rw [numberToJson_of_is Number.is_zero hin, numberToJson_of_is (Number.is_zero_of_isNegativeZero h) hin]
  · rfl

/-- **A number comes back from a document as what was kept of it.** -/
theorem ofJson_numberToJson (x : Number) : ofJson (numberToJson x) = (Value.number x).kept := by
  rcases numberToJson_cases x with ⟨n, hn, -, heq⟩ | ⟨hfinite, hnot, heq⟩ | ⟨hfinite, heq⟩
  · rw [heq, kept, if_pos hn.1, ← Number.ofInt_of_is hn]
    rfl
  · have hzero : ¬ x.isNegativeZero = true := fun h => hnot 0 (Number.is_zero_of_isNegativeZero h) (by decide)
    rw [heq, kept, if_pos hfinite, Number.unsignedZero, if_neg hzero]
    rfl
  · rw [heq, kept, hfinite]
    rfl

/-! ## From a value to a document and back -/

mutual

/-- **Written and read back, a value is what was kept of it.** -/
theorem ofJson_toJson : ∀ v : Value, ofJson v.toJson = v.kept
  | .undefined => rfl
  | .null => rfl
  | .bool _ => rfl
  | .number x => ofJson_numberToJson x
  | .string _ => rfl
  | .array items => congrArg Value.array (itemsOfJson_itemsToJson items)
  | .object entries => congrArg Value.object (entriesOfJson_entriesToJson entries)

theorem itemsOfJson_itemsToJson : ∀ items : List Value, itemsOfJson (itemsToJson items) = keptItems items
  | [] => rfl
  | v :: rest => by rw [itemsToJson, itemsOfJson, keptItems, ofJson_toJson v, itemsOfJson_itemsToJson rest]

theorem entriesOfJson_entriesToJson : ∀ entries : List (String × Value),
    entriesOfJson (entriesToJson entries) = keptEntries entries
  | [] => rfl
  | (key, v) :: rest => by
    have ih := entriesOfJson_entriesToJson rest
    rw [entriesToJson, keptEntries]
    split
    · exact ih
    · rw [entriesOfJson, ofJson_toJson v, ih]

end

mutual

/-- **What a document kept of a value it keeps again.** -/
theorem toJson_kept : ∀ v : Value, v.kept.toJson = v.toJson
  | .undefined => rfl
  | .null => rfl
  | .bool _ => rfl
  | .number x => by
    rw [kept, toJson]
    split
    · exact numberToJson_unsignedZero x
    · rename_i h
      exact (numberToJson_of_not_isFinite (Bool.eq_false_iff.2 h)).symm
  | .string _ => rfl
  | .array items => congrArg Json.array (itemsToJson_keptItems items)
  | .object entries => congrArg Json.object (entriesToJson_keptEntries entries)

theorem itemsToJson_keptItems : ∀ items : List Value, itemsToJson (keptItems items) = itemsToJson items
  | [] => rfl
  | v :: rest => by rw [keptItems, itemsToJson, itemsToJson, toJson_kept v, itemsToJson_keptItems rest]

theorem entriesToJson_keptEntries : ∀ entries : List (String × Value),
    entriesToJson (keptEntries entries) = entriesToJson entries
  | [] => rfl
  | (key, v) :: rest => by
    have ih := entriesToJson_keptEntries rest
    rw [keptEntries, entriesToJson]
    split
    · exact ih
    · rw [entriesToJson, isUndefined_kept, toJson_kept v, ih]
      rfl

end

/-! ## From a document to a value and back -/

theorem itemsToJson_itemsOfJson_iff : ∀ items : List Json,
    itemsToJson (itemsOfJson items) = items ↔ ∀ j ∈ items, (ofJson j).toJson = j
  | [] => by simp [itemsOfJson, itemsToJson]
  | j :: rest => by
    rw [itemsOfJson, itemsToJson, List.cons_eq_cons, itemsToJson_itemsOfJson_iff rest, List.forall_mem_cons]

theorem entriesToJson_entriesOfJson_iff : ∀ entries : List (String × Json),
    entriesToJson (entriesOfJson entries) = entries ↔ ∀ e ∈ entries, (ofJson e.2).toJson = e.2
  | [] => by simp [entriesOfJson, entriesToJson]
  | (key, j) :: rest => by
    rw [entriesOfJson, entriesToJson, isUndefined_ofJson, if_neg Bool.false_ne_true, List.cons_eq_cons,
      entriesToJson_entriesOfJson_iff rest, List.forall_mem_cons, Prod.mk.injEq]
    simp only [true_and]

end Value

namespace Json

theorem forall_within_leaf (P : Json → Prop) {j : Json} (hleaf : ∀ k, Within k j → k = j) :
    (∀ k, Within k j → P k) ↔ P j :=
  ⟨fun h => h j (.here j), fun h k hk => hleaf k hk ▸ h⟩

theorem forall_within_array (P : Json → Prop) (items : List Json) :
    (∀ k, Within k (.array items) → P k) ↔ P (.array items) ∧ ∀ j ∈ items, ∀ k, Within k j → P k := by
  constructor
  · exact fun h => ⟨h _ (.here _), fun j hj k hk => h k (.item hj hk)⟩
  · rintro ⟨hself, hitems⟩ k hk
    cases hk with
    | here => exact hself
    | item hj hk => exact hitems _ hj k hk

theorem forall_within_object (P : Json → Prop) (entries : List (String × Json)) :
    (∀ k, Within k (.object entries) → P k) ↔ P (.object entries) ∧ ∀ e ∈ entries, ∀ k, Within k e.2 → P k := by
  constructor
  · exact fun h => ⟨h _ (.here _), fun e he k hk => h k (.entry he hk)⟩
  · rintro ⟨hself, hentries⟩ k hk
    cases hk with
    | here => exact hself
    | entry he hk => exact hentries _ he k hk

end Json

namespace Value

theorem toJson_ofJson_int_iff (n : Int) : (ofJson (.int n)).toJson = .int n ↔ (Json.int n).Plain := by
  rw [ofJson, ofInt, toJson, numberToJson_eq_int_iff, Number.is_ofInt_iff]
  rfl

theorem toJson_ofJson_float_iff (x : Number) : (ofJson (.float x)).toJson = .float x ↔ (Json.float x).Plain :=
  numberToJson_eq_float_iff x

mutual

/-- **Read and written again, a document is the same just when every number in it is said in the way that writing says
it.** -/
theorem toJson_ofJson_iff : ∀ j : Json, (ofJson j).toJson = j ↔ ∀ k, Json.Within k j → k.Plain
  | .null => iff_of_true rfl fun _ hk => by cases hk; trivial
  | .bool _ => iff_of_true rfl fun _ hk => by cases hk; trivial
  | .string _ => iff_of_true rfl fun _ hk => by cases hk; trivial
  | .int n => (toJson_ofJson_int_iff n).trans (Json.forall_within_leaf _ fun _ hk => by cases hk; rfl).symm
  | .float x => (toJson_ofJson_float_iff x).trans (Json.forall_within_leaf _ fun _ hk => by cases hk; rfl).symm
  | .array items => by
    rw [ofJson, toJson, Json.array.injEq, itemsToJson_itemsOfJson_iff, forall_toJson_ofJson_iff items,
      Json.forall_within_array]
    exact (and_iff_right trivial).symm
  | .object entries => by
    rw [ofJson, toJson, Json.object.injEq, entriesToJson_entriesOfJson_iff, forall_entry_toJson_ofJson_iff entries,
      Json.forall_within_object]
    exact (and_iff_right trivial).symm

theorem forall_toJson_ofJson_iff : ∀ items : List Json,
    (∀ j ∈ items, (ofJson j).toJson = j) ↔ ∀ j ∈ items, ∀ k, Json.Within k j → k.Plain
  | [] => by simp
  | j :: rest => by
    rw [List.forall_mem_cons, List.forall_mem_cons, toJson_ofJson_iff j, forall_toJson_ofJson_iff rest]

theorem forall_entry_toJson_ofJson_iff : ∀ entries : List (String × Json),
    (∀ e ∈ entries, (ofJson e.2).toJson = e.2) ↔ ∀ e ∈ entries, ∀ k, Json.Within k e.2 → k.Plain
  | [] => by simp
  | (key, j) :: rest => by
    rw [List.forall_mem_cons, List.forall_mem_cons, toJson_ofJson_iff j, forall_entry_toJson_ofJson_iff rest]

end

/-- **What reading and writing documents keeps.**  A value that is written and read is what the document kept of it, and
is written again as it was.  A number is written without a point just when its cast to 64 bits is the number itself, so
the cast never rounds and never stops at an end of the range.  A document that is read and written is the same just
when each integer in it is a binary number and one of 64 bits, and each float in it is finite, as a document's floats
are, and no such integer. -/
theorem json_round_trips :
    (∀ v : Value, ofJson v.toJson = v.kept ∧ (ofJson v.toJson).toJson = v.toJson) ∧
    (∀ x : Number, (writtenWhole x = true ↔ x.Is x.toInt64) ∧
      ∀ n, numberToJson x = .int n ↔ x.Is n ∧ InInt64 n) ∧
    ∀ j : Json, (ofJson j).toJson = j ↔
      (∀ n, Json.Within (.int n) j → (∃ x : Number, x.Is n) ∧ InInt64 n) ∧
        ∀ x, Json.Within (.float x) j → x.isFinite = true ∧ ∀ n, x.Is n → ¬ InInt64 n := by
  refine ⟨fun v => ⟨ofJson_toJson v, by rw [ofJson_toJson, toJson_kept]⟩,
    fun x => ⟨Number.writtenWhole_iff_is_toInt64 x, numberToJson_eq_int_iff x⟩,
    fun j => (toJson_ofJson_iff j).trans ⟨fun h => ⟨fun n hn => h _ hn, fun x hx => h _ hx⟩, fun h k hk => ?_⟩⟩
  cases k with
  | int n => exact h.1 n hk
  | float x => exact h.2 x hk
  | _ => trivial

end Value
end Schemata
