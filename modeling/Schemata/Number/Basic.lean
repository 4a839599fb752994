/-!
# Number — the 64-bit binary numbers, exactly

Every finite 64-bit binary number is a whole multiple of `2 ^ -1074`, the smallest one.  So a number is kept as a sign
and a count of those units, and the order of numbers is the order of integers: nothing here rounds, and nothing is left
to an arithmetic that a proof cannot see.

A count of units is admitted when it has at most 53 significant bits and stays below the overflow line
(`Number.Representable`).  `Number.units` is the view that the comparisons read; the two zeros share it, and the
infinities lie on the overflow line itself.
-/
namespace Schemata
namespace Number

/-- The smallest positive number is `2 ^ -1074`. -/
def unitExponent : Nat := 1074

-- powers are written by name: their sign means the power of a monoid wherever monoids are known
theorem two_pow_pos (e : Nat) : 0 < Nat.pow 2 e := Nat.two_pow_pos e

theorem two_pow_le {d e : Nat} (h : d ≤ e) : Nat.pow 2 d ≤ Nat.pow 2 e := Nat.pow_le_pow_right (by decide) h

def unitsPerOne : Nat := Nat.pow 2 unitExponent

/-- Finite numbers end at `2 ^ 1024`, which is this power of two in units. -/
def overflowExponent : Nat := 2098

/-- The count of units at which finite numbers end. -/
def overflowUnits : Nat := Nat.pow 2 overflowExponent

theorem two_pow_le_overflowUnits {e : Nat} (h : e ≤ overflowExponent) : Nat.pow 2 e ≤ overflowUnits := by
  unfold overflowUnits
  exact two_pow_le h

/-- **A count of units that a number can hold**: below the overflow line, and with no bit further than 52 places below
its leading one. -/
def Representable (units : Nat) : Prop := units < overflowUnits ∧ Nat.pow 2 (units.log2 - 52) ∣ units

instance : DecidablePred Representable := fun units => by unfold Representable; infer_instance

/-- The size of a finite number, as a count of units. -/
structure Magnitude where
  units : Nat
  representable : Representable units
  deriving DecidableEq

theorem representable_zero : Representable 0 :=
  ⟨Nat.lt_of_lt_of_le (two_pow_pos 0) (two_pow_le_overflowUnits (Nat.zero_le _)), Nat.dvd_zero _⟩

def Magnitude.zero : Magnitude := ⟨0, representable_zero⟩

end Number

/-- A 64-bit binary number.  A zero has a sign; *not a number* has none. -/
inductive Number where
  | nan
  | infinite (negative : Bool)
  | finite (negative : Bool) (magnitude : Number.Magnitude)
  deriving DecidableEq

namespace Number

instance : Inhabited Number := ⟨.finite false .zero⟩

def zero : Number := .finite false .zero

/-- `n` with a sign in front. -/
def signed (negative : Bool) (n : Nat) : Int := if negative then -(n : Int) else n

/-- **The place of a number on the line**, in units.  *Not a number* has none, and every comparison asks first. -/
def units : Number → Int
  | .nan => 0
  | .infinite negative => signed negative overflowUnits
  | .finite negative magnitude => signed negative magnitude.units

def isNan : Number → Bool
  | .nan => true
  | _ => false

def isFinite : Number → Bool
  | .finite _ _ => true
  | _ => false

/-- Numeric equality: the zeros are equal, and *not a number* equals nothing, itself included. -/
def equals (a b : Number) : Bool := !a.isNan && !b.isNan && a.units == b.units

/-- `a ≤ b` on the line; false when either side is *not a number*. -/
def atMost (a b : Number) : Bool := !a.isNan && !b.isNan && decide (a.units ≤ b.units)

/-- `a < b` on the line; false when either side is *not a number*. -/
def below (a b : Number) : Bool := !a.isNan && !b.isNan && decide (a.units < b.units)

/-- The whole number that a number is, if it is one. -/
def toInt? : Number → Option Int
  | .finite negative magnitude =>
    if magnitude.units % unitsPerOne = 0 then some (signed negative (magnitude.units / unitsPerOne)) else none
  | _ => none

/-- Finite, with nothing after the point. -/
def isIntegral (a : Number) : Bool := a.toInt?.isSome

/-- The ends of the 64-bit signed integers. -/
def int64Min : Int := -0x8000000000000000

def int64Max : Int := 0x7FFFFFFFFFFFFFFF

/-- **The cast to a 64-bit signed integer**: what stands after the point is dropped, what lies beyond the range becomes
the nearer end of it, and *not a number* becomes zero. -/
def toInt64 : Number → Int
  | .nan => 0
  | .infinite negative => if negative then int64Min else int64Max
  | .finite negative magnitude => max int64Min (min int64Max (signed negative (magnitude.units / unitsPerOne)))

/-- The zero whose sign is set. -/
def isNegativeZero : Number → Bool
  | .finite true magnitude => magnitude.units == 0
  | _ => false

end Number
end Schemata
