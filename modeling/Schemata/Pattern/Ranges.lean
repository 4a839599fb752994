/-!
# Ranges — sets of code points as ascending ranges

A set of code points is a list of ranges, each a pair of its ends.  In normal form the ranges ascend and no two of them
touch, so equal sets are equal lists; every operation here takes normal forms to a normal form.
-/
namespace Schemata
namespace Ranges

def last : Nat := 0x10FFFF

/-- Whether a code point is in one of some ascending ranges. -/
def has (n : Nat) : List (Nat × Nat) → Bool
  | [] => false
  | (lo, hi) :: rest => if n < lo then false else n ≤ hi || has n rest

/-- Joins the ranges that overlap or touch, the first range given apart; the others start no earlier. -/
def joinFrom (lo hi : Nat) : List (Nat × Nat) → List (Nat × Nat)
  | [] => [(lo, hi)]
  | (a, b) :: rest => if a ≤ hi + 1 then joinFrom lo (max hi b) rest else (lo, hi) :: joinFrom a b rest

/-- The normal form of ranges that ascend by their first ends. -/
def join : List (Nat × Nat) → List (Nat × Nat)
  | [] => []
  | (lo, hi) :: rest => joinFrom lo hi rest

/-- The normal form of any ranges. -/
def ofList (rs : List (Nat × Nat)) : List (Nat × Nat) := join (rs.mergeSort fun r s => r.1 ≤ s.1)

def union (rs ss : List (Nat × Nat)) : List (Nat × Nat) := join (rs.merge ss fun r s => r.1 ≤ s.1)

/-- The code points from `n` on that are in none of the ranges. -/
def gapsFrom (n : Nat) : List (Nat × Nat) → List (Nat × Nat)
  | [] => if n ≤ last then [(n, last)] else []
  | (lo, hi) :: rest => if n < lo then (n, lo - 1) :: gapsFrom (hi + 1) rest else gapsFrom (hi + 1) rest

def complement (rs : List (Nat × Nat)) : List (Nat × Nat) := gapsFrom 0 rs

def inter (rs ss : List (Nat × Nat)) : List (Nat × Nat) := complement (union (complement rs) (complement ss))

/-- Joining ranges loses no code point and adds none. -/
theorem has_joinFrom (n : Nat) : ∀ (rs : List (Nat × Nat)) (lo hi : Nat), lo ≤ hi → (∀ r ∈ rs, lo ≤ r.1) →
    rs.Pairwise (fun r s => r.1 ≤ s.1) → (∀ r ∈ rs, r.1 ≤ r.2) →
    has n (joinFrom lo hi rs) = (decide (lo ≤ n ∧ n ≤ hi) || rs.any fun r => decide (r.1 ≤ n ∧ n ≤ r.2))
  | [], lo, hi, _, _, _, _ => by
    simp only [joinFrom, has, List.any_nil, Bool.or_false]
    by_cases h : n < lo
    · rw [if_pos h]; exact (decide_eq_false (by omega)).symm
    · rw [if_neg h]; exact decide_eq_decide.2 (by omega)
  | (a, b) :: rest, lo, hi, hlh, hlo, hs, hne => by
    have hla : lo ≤ a := hlo (a, b) (by simp)
    have hab : a ≤ b := hne (a, b) (by simp)
    obtain ⟨ha, hrest⟩ := List.pairwise_cons.1 hs
    have hne' : ∀ r ∈ rest, r.1 ≤ r.2 := fun r hr => hne r (by simp [hr])
    unfold joinFrom
    split
    · rename_i htouch
      rw [has_joinFrom n rest lo (max hi b) (by omega) (fun r hr => hlo r (by simp [hr])) hrest hne', List.any_cons,
        ← Bool.or_assoc, ← Bool.decide_or]
      congr 2
      exact propext (by omega)
    · rw [has, has_joinFrom n rest a b hab ha hrest hne', List.any_cons]
      by_cases h : n < lo
      · have hno : (rest.any fun r => decide (r.1 ≤ n ∧ n ≤ r.2)) = false := by
          rw [List.any_eq_false]
          intro r hr
          have := hlo r (by simp [hr])
          simp; omega
        rw [if_pos h, hno, decide_eq_false (by omega : ¬ (lo ≤ n ∧ n ≤ hi)),
          decide_eq_false (by omega : ¬ (a ≤ n ∧ n ≤ b))]; rfl
      · have hin : (lo ≤ n ∧ n ≤ hi) ↔ n ≤ hi := by omega
        rw [if_neg h]; simp only [hin]

end Ranges
end Schemata
