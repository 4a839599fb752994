import Schemata.Number.Basic
/-!
# Rounding — the nearest number to a fraction

A fraction lies between two neighbouring multiples of a spacing, the spacing being set by how many significant bits a
format keeps.  `roundDiv` picks the nearer multiple and the even one of two equally near; `Format.nearest` applies it to
a fraction and turns what reaches the overflow line into an infinity.  Reading decimal text, converting integers and
adding all come down to it, so each is one rounding of an exact result.

`representable_roundUnits` is why the result is a magnitude: a multiple of `2 ^ e` by at most `2 ^ 53` has no bit
further than 52 places below its leading one.
-/
namespace Schemata
namespace Number

/-- **The whole number nearest to `num / den`**, the even one of two equally near. -/
def roundDiv (num den : Nat) : Nat :=
  let quotient := num / den
  let twice := 2 * (num % den)
  if twice < den then quotient
  else if den < twice then quotient + 1
  else quotient + quotient % 2

theorem roundDiv_le (num den : Nat) : roundDiv num den ≤ num / den + 1 := by
  simp only [roundDiv]
  split
  · omega
  · split <;> omega

/-- **The rounded quotient is at most half a unit away.** -/
theorem roundDiv_near (num den : Nat) (h : 0 < den) :
    2 * num ≤ 2 * (roundDiv num den * den) + den ∧ 2 * (roundDiv num den * den) ≤ 2 * num + den := by
  have hdm := Nat.div_add_mod num den
  have hr := Nat.mod_lt num h
  rw [Nat.mul_comm] at hdm
  generalize hq : num / den = q at hdm
  generalize hm : num % den = r at hdm hr
  have hround : roundDiv num den = q ∧ 2 * r ≤ den ∨ roundDiv num den = q + 1 ∧ den ≤ 2 * r := by
    simp only [roundDiv, hq, hm]
    split
    · omega
    · split <;> omega
  have hsucc : (q + 1) * den = q * den + den := Nat.succ_mul q den
  rcases hround with ⟨he, _⟩ | ⟨he, _⟩
  · rw [he]; omega
  · rw [he, hsucc]; omega

/-- **An exact quotient is not changed.** -/
theorem roundDiv_mul_left (quotient den : Nat) (h : 0 < den) : roundDiv (quotient * den) den = quotient := by
  simp [roundDiv, Nat.mul_div_cancel _ h, h]

/-- How a binary format spends its bits: `digits` significant ones, none worth less than `2 ^ finest` units, and values
below `2 ^ ceiling` units. -/
structure Format where
  digits : Nat
  finest : Nat
  ceiling : Nat
  digits_le : digits ≤ 53 := by omega
  ceiling_le : ceiling ≤ overflowExponent := by decide

def Format.binary64 : Format where
  digits := 53
  finest := 0
  ceiling := 2098

/-- The 32-bit format, as a subset of the 64-bit numbers: 24 bits, down to `2 ^ -149`, below `2 ^ 128`. -/
def Format.binary32 : Format where
  digits := 24
  finest := 925
  ceiling := 1202

/-- The exponent of the spacing around a value whose whole part is `whole` units. -/
def Format.spacing (f : Format) (whole : Nat) : Nat := max f.finest (whole.log2 + 1 - f.digits)

/-- The multiple of the spacing nearest to `num / den` units. -/
def Format.roundUnits (f : Format) (num den : Nat) : Nat :=
  let e := f.spacing (num / den)
  roundDiv num (den * Nat.pow 2 e) * Nat.pow 2 e

/-- **A multiple of a power of two by at most `2 ^ 53` has 53 significant bits.** -/
theorem two_pow_log2_dvd {k e digits : Nat} (hdigits : digits ≤ 53) (h : k ≤ Nat.pow 2 digits) :
    Nat.pow 2 ((k * Nat.pow 2 e).log2 - 52) ∣ k * Nat.pow 2 e := by
  simp only [Nat.pow_eq] at h ⊢
  rcases Nat.eq_or_lt_of_le h with rfl | hlt
  · rw [← Nat.pow_add, Nat.log2_two_pow]
    exact Nat.pow_dvd_pow 2 (by omega)
  · refine Nat.dvd_trans (Nat.pow_dvd_pow 2 ?_) (Nat.dvd_mul_left (2 ^ e) k)
    rcases Nat.eq_zero_or_pos k with rfl | hk
    · simp
    · have hne : k * 2 ^ e ≠ 0 := Nat.mul_ne_zero (by omega) (Nat.pos_iff_ne_zero.1 (Nat.two_pow_pos e))
      have : (k * 2 ^ e).log2 < digits + e := by
        rw [Nat.log2_lt hne, Nat.pow_add]
        exact Nat.mul_lt_mul_of_pos_right hlt (Nat.two_pow_pos e)
      omega

theorem roundDiv_le_two_pow (f : Format) (num den : Nat) :
    roundDiv num (den * Nat.pow 2 (f.spacing (num / den))) ≤ Nat.pow 2 f.digits := by
  refine Nat.le_trans (roundDiv_le _ _) ?_
  rw [← Nat.div_div_eq_div_mul]
  have hlog : num / den < Nat.pow 2 ((num / den).log2 + 1) := Nat.lt_log2_self
  have hsp : (num / den).log2 + 1 ≤ f.digits + f.spacing (num / den) := by
    unfold Format.spacing
    omega
  refine (Nat.div_lt_iff_lt_mul (two_pow_pos _)).2 (Nat.lt_of_lt_of_le hlog ?_)
  simp only [Nat.pow_eq, ← Nat.pow_add]
  exact two_pow_le hsp

theorem representable_roundUnits (f : Format) (num den : Nat) (h : f.roundUnits num den < Nat.pow 2 f.ceiling) :
    Representable (f.roundUnits num den) :=
  ⟨Nat.lt_of_lt_of_le h (two_pow_le_overflowUnits f.ceiling_le),
    two_pow_log2_dvd f.digits_le (roundDiv_le_two_pow f num den)⟩

/-- **The number of a format nearest to `num / den` units**, an infinity from the format's ceiling on. -/
def Format.nearestUnits (f : Format) (negative : Bool) (num den : Nat) : Number :=
  if h : f.roundUnits num den < Nat.pow 2 f.ceiling then
    .finite negative ⟨f.roundUnits num den, representable_roundUnits f num den h⟩
  else .infinite negative

/-- The number of a format nearest to `num / den`. -/
def Format.nearest (f : Format) (negative : Bool) (num den : Nat) : Number :=
  f.nearestUnits negative (num * unitsPerOne) den

/-- The number nearest to an integer; zero is the positive one. -/
def ofInt (n : Int) : Number := Format.binary64.nearest (n < 0) n.natAbs 1

/-- **Addition, rounded once.**  Opposite infinities have no sum; an exact zero is positive unless both sides are the
negative zero. -/
def add : Number → Number → Number
  | .nan, _ => .nan
  | _, .nan => .nan
  | .infinite a, .infinite b => if a == b then .infinite a else .nan
  | .infinite a, .finite _ _ => .infinite a
  | .finite _ _, .infinite b => .infinite b
  | .finite a m, .finite b n =>
    let sum := signed a m.units + signed b n.units
    if sum = 0 then .finite (a && b) .zero else Format.binary64.nearestUnits (sum < 0) sum.natAbs 1

end Number
end Schemata
