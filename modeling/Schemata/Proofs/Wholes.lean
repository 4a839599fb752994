import Schemata.Value
/-!
# Wholes — integers among the binary numbers

A number is an integer when it lies on a multiple of `unitsPerOne` (`Number.Is`).  An integer that some number is, is
the number that rounding makes of it (`is_ofInt_iff`): a count of units that can be held is its own nearest
(`roundUnits_of_representable`).  So reading such an integer changes nothing, and neither does the cast to a 64-bit
integer within the range (`toInt64_of_is`), which is where a number is written without a point (`writtenWhole_iff`).
-/
namespace Schemata
namespace Number

theorem unitsPerOne_pos : 0 < unitsPerOne := by
  unfold unitsPerOne
  exact two_pow_pos _

/-- The number is that integer, exactly. -/
def Is (x : Number) (n : Int) : Prop := x.isFinite = true ∧ x.units = n * unitsPerOne

theorem natAbs_signed (negative : Bool) (n : Nat) : (signed negative n).natAbs = n := by
  cases negative <;> simp [signed]

theorem signed_mul (negative : Bool) (n k : Nat) : signed negative (n * k) = signed negative n * k := by
  cases negative <;> simp only [signed, Int.natCast_mul, Int.neg_mul, if_true, Bool.false_eq_true, if_false]

theorem signed_natAbs (n : Int) : signed (n < 0) n.natAbs = n := by
  by_cases h : n < 0
  · simp only [signed, h, decide_true, if_true]
    omega
  · simp only [signed, h, decide_false, Bool.false_eq_true, if_false]
    omega

theorem Is.units_magnitude {negative : Bool} {m : Magnitude} {n : Int} (h : (Number.finite negative m).Is n) :
    m.units = n.natAbs * unitsPerOne := by
  have hunits := congrArg Int.natAbs h.2
  rwa [units, natAbs_signed, Int.natAbs_mul, Int.natAbs_natCast] at hunits

theorem eq_of_mul_unitsPerOne {n k : Int} (h : n * unitsPerOne = k * unitsPerOne) : n = k :=
  Int.eq_of_mul_eq_mul_right (Int.natCast_ne_zero.2 (Nat.pos_iff_ne_zero.1 unitsPerOne_pos)) h

theorem Is.unique {x : Number} {n k : Int} (hn : x.Is n) (hk : x.Is k) : n = k :=
  eq_of_mul_unitsPerOne (hn.2.symm.trans hk.2)

theorem Is.signed_natAbs {negative : Bool} {m : Magnitude} {n : Int} (h : (Number.finite negative m).Is n) :
    signed negative n.natAbs = n := by
  have hunits := h.2
  rw [units, h.units_magnitude, signed_mul] at hunits
  exact eq_of_mul_unitsPerOne hunits

theorem Magnitude.ext : ∀ {m m' : Magnitude}, m.units = m'.units → m = m'
  | ⟨_, _⟩, ⟨_, _⟩, rfl => rfl

theorem toInt?_eq_some_iff (n : Int) : ∀ x : Number, x.toInt? = some n ↔ x.Is n
  | .nan => iff_of_false nofun fun h => Bool.false_ne_true h.1
  | .infinite _ => iff_of_false nofun fun h => Bool.false_ne_true h.1
  | .finite negative m => by
    have his : m.units % unitsPerOne = 0 → (Number.finite negative m).Is (signed negative (m.units / unitsPerOne)) :=
      fun h => ⟨rfl, by rw [units, ← signed_mul, Nat.div_mul_cancel (Nat.dvd_of_mod_eq_zero h)]⟩
    simp only [toInt?]
    split
    · rename_i h
      exact ⟨fun hn => Option.some.inj hn ▸ his h, fun hn => congrArg some ((his h).unique hn)⟩
    · rename_i h
      refine ⟨nofun, fun hn => absurd ?_ h⟩
      rw [hn.units_magnitude, Nat.mul_mod_left]

theorem Is.isNan_eq_false : ∀ {x : Number} {n : Int}, x.Is n → x.isNan = false
  | .finite _ _, _, _ => rfl

/-- **Numbers that are integers stand as these do.** -/
theorem Is.atMost_iff {x y : Number} {n k : Int} (hx : x.Is n) (hy : y.Is k) : x.atMost y = true ↔ n ≤ k := by
  have hpos : (0 : Int) < unitsPerOne := Int.natCast_pos.2 unitsPerOne_pos
  rw [atMost, hx.isNan_eq_false, hy.isNan_eq_false, hx.2, hy.2]
  exact decide_eq_true_iff.trans (Int.mul_le_mul_iff_of_pos_right hpos)

theorem Is.below_iff {x y : Number} {n k : Int} (hx : x.Is n) (hy : y.Is k) : x.below y = true ↔ n < k := by
  have hpos : (0 : Int) < unitsPerOne := Int.natCast_pos.2 unitsPerOne_pos
  rw [below, hx.isNan_eq_false, hy.isNan_eq_false, hx.2, hy.2]
  exact decide_eq_true_iff.trans (Int.mul_lt_mul_right hpos)

theorem is_zero : zero.Is 0 := by
  refine ⟨rfl, ?_⟩
  rw [Int.zero_mul]
  rfl

/-! ## Reading an integer -/

/-- **A count of units that can be held is its own nearest.** -/
theorem roundUnits_of_representable {u : Nat} (h : Representable u) : Format.binary64.roundUnits u 1 = u := by
  have hspacing : Format.binary64.spacing (u / 1) = u.log2 - 52 := by
    rw [Nat.div_one]
    simp only [Format.spacing, Format.binary64]
    omega
  obtain ⟨k, hk⟩ := h.2
  have hpos := two_pow_pos (u.log2 - 52)
  simp only [Format.roundUnits, hspacing, Nat.one_mul]
  generalize Nat.pow 2 (u.log2 - 52) = spacing at hk hpos ⊢
  rw [hk, Nat.mul_comm spacing k, roundDiv_mul_left k spacing hpos]

/-- **An integer that can be held is read as itself.** -/
theorem ofInt_of_representable {n : Int} (h : Representable (n.natAbs * unitsPerOne)) :
    ofInt n = .finite (n < 0) ⟨n.natAbs * unitsPerOne, h⟩ := by
  have hround := roundUnits_of_representable h
  have hlt : Format.binary64.roundUnits (n.natAbs * unitsPerOne) 1 < Nat.pow 2 Format.binary64.ceiling := by
    have hceiling : Format.binary64.ceiling = overflowExponent := rfl
    have hunits := h.1
    rw [hround, hceiling]
    unfold overflowUnits at hunits
    exact hunits
  unfold ofInt Format.nearest Format.nearestUnits
  rw [dif_pos hlt]
  simp only [hround]

theorem is_ofInt_of_representable {n : Int} (h : Representable (n.natAbs * unitsPerOne)) : (ofInt n).Is n := by
  rw [ofInt_of_representable h]
  refine ⟨rfl, ?_⟩
  rw [units, signed_mul, signed_natAbs]

/-- **An integer is read as itself if any number is that integer.** -/
theorem is_ofInt_iff (n : Int) : (ofInt n).Is n ↔ ∃ x : Number, x.Is n := by
  refine ⟨fun h => ⟨_, h⟩, ?_⟩
  rintro ⟨x, hx⟩
  cases x with
  | finite negative m => exact is_ofInt_of_representable (hx.units_magnitude ▸ m.representable)
  | _ => cases hx.1

/-- The same number, with the sign of a zero dropped. -/
def unsignedZero (x : Number) : Number := if x.isNegativeZero then .zero else x

theorem is_zero_of_isNegativeZero {x : Number} (h : x.isNegativeZero = true) : x.Is 0 := by
  cases x with
  | finite negative m =>
    cases negative with
    | true =>
      have hunits : m.units = 0 := eq_of_beq h
      refine ⟨rfl, ?_⟩
      rw [units, hunits, Int.zero_mul]
      rfl
    | false => exact absurd h Bool.false_ne_true
  | _ => exact absurd h Bool.false_ne_true

/-- **A number that is an integer is what is read of that integer**, but for the sign of a zero. -/
theorem ofInt_of_is {x : Number} {n : Int} (h : x.Is n) : ofInt n = x.unsignedZero := by
  cases x with
  | finite negative m =>
    have hsign := h.signed_natAbs
    have hrep : Representable (n.natAbs * unitsPerOne) := h.units_magnitude ▸ m.representable
    rw [ofInt_of_representable hrep, show m = ⟨n.natAbs * unitsPerOne, hrep⟩ from Magnitude.ext h.units_magnitude]
    cases negative with
    | false =>
      have hpos : ¬ n < 0 := by
        simp only [signed, Bool.false_eq_true, if_false] at hsign
        omega
      simp [unsignedZero, isNegativeZero, hpos]
    | true =>
      by_cases h0 : n = 0
      · subst h0
        simp [unsignedZero, isNegativeZero, zero, Magnitude.zero]
      · have hneg : n < 0 := by
          simp only [signed, if_true] at hsign
          omega
        have hne : n.natAbs * unitsPerOne ≠ 0 :=
          Nat.mul_ne_zero (Int.natAbs_ne_zero.2 h0) (Nat.pos_iff_ne_zero.1 unitsPerOne_pos)
        simp [unsignedZero, isNegativeZero, hneg, hne]
  | _ => cases h.1

/-! ## The 64-bit signed range -/

/-- The integer is a 64-bit signed one. -/
def InInt64 (n : Int) : Prop := -0x8000000000000000 ≤ n ∧ n < 0x8000000000000000

instance : DecidablePred InInt64 := fun n =>
  inferInstanceAs (Decidable (-0x8000000000000000 ≤ n ∧ n < 0x8000000000000000))

theorem is_ofInt_int64Min : (ofInt int64Min).Is (-0x8000000000000000) := is_ofInt_of_representable (by decide +kernel)

/-- **The upper end of the range is no number**, and is read as the power of two behind it. -/
theorem is_ofInt_int64Max : (ofInt int64Max).Is 0x8000000000000000 := ⟨by decide +kernel, by decide +kernel⟩

/-- **A number is written without a point if it is an integer in the range**, and only then. -/
theorem writtenWhole_iff (x : Number) : Value.writtenWhole x = true ↔ ∃ n, x.Is n ∧ InInt64 n := by
  simp only [Value.writtenWhole, Bool.and_eq_true, isIntegral, Option.isSome_iff_exists, toInt?_eq_some_iff]
  constructor
  · rintro ⟨⟨⟨n, h⟩, hlow⟩, hhigh⟩
    exact ⟨n, h, (is_ofInt_int64Min.atMost_iff h).1 hlow, (h.below_iff is_ofInt_int64Max).1 hhigh⟩
  · rintro ⟨n, h, hlow, hhigh⟩
    exact ⟨⟨⟨n, h⟩, (is_ofInt_int64Min.atMost_iff h).2 hlow⟩, (h.below_iff is_ofInt_int64Max).2 hhigh⟩

theorem not_writtenWhole {x : Number} (h : ∀ n, x.Is n → ¬ InInt64 n) : ¬ Value.writtenWhole x = true := fun hx => by
  obtain ⟨n, hn, hin⟩ := (writtenWhole_iff x).1 hx
  exact h n hn hin

/-- **The cast of an integer in the range is exact.** -/
theorem toInt64_of_is {x : Number} {n : Int} (h : x.Is n) (hn : InInt64 n) : x.toInt64 = n := by
  have hint := (toInt?_eq_some_iff n x).2 h
  cases x with
  | finite negative m =>
    simp only [toInt?] at hint
    split at hint
    · simp only [toInt64, Option.some.inj hint]
      obtain ⟨hlow, hhigh⟩ := hn
      unfold int64Min int64Max
      omega
    · cases hint
  | _ => cases h.1

theorem inInt64_toInt64 (x : Number) : InInt64 x.toInt64 := by
  cases x with
  | finite negative m =>
    simp only [toInt64, int64Min, int64Max, InInt64]
    omega
  | infinite negative => cases negative <;> decide
  | nan => decide

/-- **A number is written without a point just when its cast is the number itself.** -/
theorem writtenWhole_iff_is_toInt64 (x : Number) : Value.writtenWhole x = true ↔ x.Is x.toInt64 := by
  rw [writtenWhole_iff]
  constructor
  · rintro ⟨n, h, hn⟩
    rwa [toInt64_of_is h hn]
  · exact fun h => ⟨_, h, inInt64_toInt64 x⟩

/-- The power of two behind the range is written with a point, the lower end without. -/
example : Value.writtenWhole (ofInt 0x8000000000000000) = false ∧ Value.writtenWhole (ofInt int64Min) = true := by
  decide +kernel

end Number
end Schemata
