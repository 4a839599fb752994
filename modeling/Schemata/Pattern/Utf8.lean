/-!
# Utf8 — ranges of code points as ranges of bytes

A range of code points is cut into pieces (`pieces`) whose UTF-8 forms are just the byte strings that go through a
sequence of byte ranges, a range for each byte; `sequences` lists these sequences in ascending order.  A piece is what
one lead byte and some free bytes after it reach, or a run of such blocks.
-/
namespace Schemata
namespace Utf8

def width (n : Nat) : Nat := if n < 0x80 then 1 else if n < 0x800 then 2 else if n < 0x10000 then 3 else 4

/-- The last bytes of a code point, six bits each, the lowest last. -/
def tail : Nat → Nat → List Nat
  | 0, _ => []
  | k + 1, n => (0x80 + n / Nat.pow 64 k % 64) :: tail k n

def encode (n : Nat) : List Nat :=
  match width n with
  | 1 => [n]
  | 2 => (0xC0 + n / 64) :: tail 1 n
  | 3 => (0xE0 + n / 0x1000) :: tail 2 n
  | _ => (0xF0 + n / 0x40000) :: tail 3 n

/-- The blocks of code points that take the same number of bytes, with no surrogates among them. -/
def blocks : List (Nat × Nat) :=
  [(0, 0x7F), (0x80, 0x7FF), (0x800, 0xD7FF), (0xE000, 0xFFFF), (0x10000, 0x10FFFF)]

/-- Cuts a range whose ends agree but for the last `k` bytes and the byte before these: first what the block of the
lower end has of it, then the whole blocks, then what the block of the upper end has. -/
def pieces : Nat → Nat → Nat → List (Nat × Nat)
  | 0, lo, hi => [(lo, hi)]
  | k + 1, lo, hi =>
    let size := Nat.pow 64 (k + 1)
    if lo / size = hi / size then pieces k lo hi
    else
      let first := (lo + size - 1) / size * size
      let last := (hi + 1) / size * size
      (if lo < first then pieces k lo (first - 1) else []) ++
        (if first < last then [(first, last - 1)] else []) ++
        (if last ≤ hi then pieces k last hi else [])

/-- The sequences of byte ranges that write the code points of a range. -/
def sequences (lo hi : Nat) : List (List (Nat × Nat)) :=
  blocks.flatMap fun block =>
    let lo := max lo block.1
    let hi := min hi block.2
    if lo ≤ hi then (pieces (width lo - 1) lo hi).map fun piece => (encode piece.1).zip (encode piece.2) else []

/-- Every piece is a range within the range that is cut. -/
theorem within_of_mem_pieces : ∀ (k lo hi : Nat), lo ≤ hi → ∀ p ∈ pieces k lo hi, lo ≤ p.1 ∧ p.1 ≤ p.2 ∧ p.2 ≤ hi
  | 0, lo, hi, h, p, hp => by simp only [pieces, List.mem_singleton] at hp; subst hp; exact ⟨by simp, h, by simp⟩
  | k + 1, lo, hi, h, p, hp => by
    have hsize : 0 < Nat.pow 64 (k + 1) := Nat.pow_pos (by decide)
    simp only [pieces] at hp
    split at hp
    · exact within_of_mem_pieces k lo hi h p hp
    · rename_i hne
      generalize Nat.pow 64 (k + 1) = size at hp hne hsize
      have hlt : lo / size < hi / size := Nat.lt_of_le_of_ne (Nat.div_le_div_right h) hne
      have hfirst : lo ≤ (lo + size - 1) / size * size := by
        have := Nat.lt_div_mul_add hsize (a := lo + size - 1); omega
      have hlast : (hi + 1) / size * size ≤ hi + 1 := Nat.div_mul_le_self _ _
      have hmid : (lo + size - 1) / size * size ≤ hi := by
        have h1 : (lo + size - 1) / size ≤ lo / size + 1 := by
          rw [← Nat.add_div_right _ hsize]; exact Nat.div_le_div_right (by omega)
        calc (lo + size - 1) / size * size ≤ hi / size * size := Nat.mul_le_mul_right _ (by omega)
          _ ≤ hi := Nat.div_mul_le_self _ _
      have hlow : lo ≤ (hi + 1) / size * size := by
        have h1 : lo / size + 1 ≤ (hi + 1) / size := Nat.le_trans hlt (Nat.div_le_div_right (by omega))
        have h2 := Nat.mul_le_mul_right size h1
        have h3 := Nat.lt_div_mul_add hsize (a := lo)
        rw [Nat.add_mul, Nat.one_mul] at h2; omega
      rcases List.mem_append.1 hp with hp | hp
      · rcases List.mem_append.1 hp with hp | hp
        · split at hp
          · have := within_of_mem_pieces k _ _ (by omega) p hp; omega
          · simp at hp
        · split at hp
          · simp only [List.mem_singleton] at hp; subst hp
            simp only; omega
          · simp at hp
      · split at hp
        · have := within_of_mem_pieces k _ _ (by assumption) p hp; omega
        · simp at hp

end Utf8
end Schemata
