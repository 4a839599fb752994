import Mathlib.Computability.Language
import Schemata.Proofs.Matching
/-!
# Languages — the words that an expression spells

An expression without anchors asks nothing of its place: it spells a language wherever it stands (`Regex.Spells`), and
its language follows from those of its parts.  One that ends with the text spells out what is left of it
(`Regex.SpellsOut`).  A search from the start of the text to its end is then a question about words
(`Regex.SpellsOut.search_iff`).
-/
namespace Schemata
namespace Regex

/-- **An expression spells a language**: wherever it stands, it leads just over the words of it. -/
def Spells (a : Regex) (L : Language Char) : Prop := ∀ p q, a.Leads p q ↔ ∃ w ∈ L, p.Reads w q

/-- **An expression spells out a language**: it leads on from where all that is left is a word of it. -/
def SpellsOut (a : Regex) (L : Language Char) : Prop := ∀ p, (∃ q, a.Leads p q) ↔ p.rest ∈ L

/-- The language of the words that have a property. -/
def wordsOf (P : List Char → Prop) : Language Char := {w | P w}

/-- The words of one character of a kind. -/
def oneOf (P : Char → Prop) : Language Char := wordsOf fun w => ∃ c, P c ∧ w = [c]

theorem mem_wordsOf {P : List Char → Prop} {w : List Char} : w ∈ wordsOf P ↔ P w := Iff.rfl

theorem single_contains_iff (d c : Char) : (CharSet.single d).contains c = true ↔ c = d := by
  rw [CharSet.single, CharSet.contains, Bool.and_eq_true, decide_eq_true_iff, decide_eq_true_iff]
  exact ⟨fun h => Char.le_antisymm h.2 h.1, fun h => h ▸ ⟨Char.le_refl _, Char.le_refl _⟩⟩

theorem exists_mul_reads {L M : Language Char} {p q : Place} :
    (∃ w ∈ L * M, p.Reads w q) ↔ ∃ m, (∃ u ∈ L, p.Reads u m) ∧ ∃ v ∈ M, m.Reads v q := by
  constructor
  · rintro ⟨_, hw, h⟩
    obtain ⟨u, hu, v, hv, rfl⟩ := Language.mem_mul.1 hw
    obtain ⟨m, hpu, hvq⟩ := Place.Reads.append_iff.1 h
    exact ⟨m, ⟨u, hu, hpu⟩, v, hv, hvq⟩
  · rintro ⟨m, ⟨u, hu, hpu⟩, v, hv, hvq⟩
    exact ⟨u ++ v, Language.append_mem_mul hu hv, Place.Reads.append_iff.2 ⟨m, hpu, hvq⟩⟩

theorem Spells.one {s : CharSet} {P : Char → Prop} (hs : ∀ c, s.contains c = true ↔ P c) :
    (Regex.one s).Spells (oneOf P) := by
  intro p q
  constructor
  · rintro ⟨c, hc, h⟩
    exact ⟨[c], ⟨c, (hs c).1 hc, rfl⟩, h⟩
  · rintro ⟨_, ⟨c, hc, rfl⟩, h⟩
    exact ⟨c, (hs c).2 hc, h⟩

theorem Spells.seq {a b : Regex} {L M : Language Char} (ha : a.Spells L) (hb : b.Spells M) :
    (Regex.seq a b).Spells (L * M) := fun p q =>
  (exists_congr fun m => and_congr (ha p m) (hb m q)).trans exists_mul_reads.symm

theorem Spells.rounds {a : Regex} {L : Language Char} (ha : a.Spells L) : ∀ (n : Nat) (p q : Place),
    Rounds a.Leads n p q ↔ ∃ w ∈ L ^ n, p.Reads w q
  | 0, p, q => by simp [Rounds, Language.mem_one, Place.Reads.nil_iff]
  | n + 1, p, q => by
    rw [pow_succ', exists_mul_reads]
    exact exists_congr fun m => and_congr (ha p m) (Spells.rounds ha n m q)

theorem Spells.repeated {a : Regex} {L : Language Char} (ha : a.Spells L) (least : Nat) (most : Option Nat) :
    (Regex.repeated a least most).Spells (wordsOf fun w => ∃ n, least ≤ n ∧ (∀ m ∈ most, n ≤ m) ∧ w ∈ L ^ n) := by
  intro p q
  constructor
  · rintro ⟨n, hleast, hmost, h⟩
    obtain ⟨w, hw, hpw⟩ := (ha.rounds n p q).1 h
    exact ⟨w, ⟨n, hleast, hmost, hw⟩, hpw⟩
  · rintro ⟨w, ⟨n, hleast, hmost, hw⟩, hpw⟩
    exact ⟨n, hleast, hmost, (ha.rounds n p q).2 ⟨w, hw, hpw⟩⟩

theorem Spells.congr {a : Regex} {L M : Language Char} (ha : a.Spells L) (h : ∀ w, w ∈ L ↔ w ∈ M) : a.Spells M :=
  Language.ext h ▸ ha

theorem SpellsOut.congr {a : Regex} {L M : Language Char} (ha : a.SpellsOut L) (h : ∀ w, w ∈ L ↔ w ∈ M) :
    a.SpellsOut M := Language.ext h ▸ ha

theorem Spells.opt {a : Regex} {L : Language Char} (ha : a.Spells L) : (Regex.opt a).Spells (1 + L) := by
  refine (ha.repeated 0 (some 1)).congr fun w => ?_
  rw [Language.mem_add]
  constructor
  · rintro ⟨n, -, hmost, hw⟩
    obtain rfl | rfl := Nat.le_one_iff_eq_zero_or_eq_one.1 (hmost 1 rfl)
    · exact .inl (pow_zero L ▸ hw)
    · exact .inr (pow_one L ▸ hw)
  · rintro (hw | hw)
    · exact ⟨0, Nat.le_refl _, fun _ _ => Nat.zero_le _, (pow_zero L).symm ▸ hw⟩
    · exact ⟨1, Nat.zero_le _, fun m hm => (Option.some.inj hm).le, (pow_one L).symm ▸ hw⟩

open Computability in
theorem Spells.star {a : Regex} {L : Language Char} (ha : a.Spells L) : (Regex.star a).Spells L∗ := by
  refine (ha.repeated 0 none).congr fun w => ?_
  rw [Language.mem_kstar]
  constructor
  · rintro ⟨n, -, -, hw⟩
    obtain ⟨ws, hws, -, hmem⟩ := Language.mem_pow.1 hw
    exact ⟨ws, hws, hmem⟩
  · rintro ⟨ws, hws, hmem⟩
    exact ⟨ws.length, Nat.zero_le _, nofun, Language.mem_pow.2 ⟨ws, hws, rfl, hmem⟩⟩

theorem mem_oneOf_mul {P : Char → Prop} {L : Language Char} {w : List Char} :
    w ∈ oneOf P * L ↔ ∃ c v, P c ∧ v ∈ L ∧ w = c :: v := by
  rw [Language.mem_mul]
  constructor
  · rintro ⟨_, ⟨c, hc, rfl⟩, v, hv, rfl⟩
    exact ⟨c, v, hc, hv, rfl⟩
  · rintro ⟨c, v, hc, hv, rfl⟩
    exact ⟨[c], ⟨c, hc, rfl⟩, v, hv, rfl⟩

theorem mem_mul_oneOf {P : Char → Prop} {L : Language Char} {w : List Char} :
    w ∈ L * oneOf P ↔ ∃ v c, v ∈ L ∧ P c ∧ w = v ++ [c] := by
  rw [Language.mem_mul]
  constructor
  · rintro ⟨v, hv, _, ⟨c, hc, rfl⟩, rfl⟩
    exact ⟨v, c, hv, hc, rfl⟩
  · rintro ⟨v, c, hv, hc, rfl⟩
    exact ⟨v, hv, [c], ⟨c, hc, rfl⟩, rfl⟩

theorem mem_oneOf_pow {P : Char → Prop} : ∀ (n : Nat) (w : List Char), w ∈ oneOf P ^ n ↔ n = w.length ∧ ∀ c ∈ w, P c
  | 0, w => by
    rw [pow_zero, Language.mem_one]
    constructor
    · rintro rfl
      exact ⟨rfl, nofun⟩
    · exact fun h => List.eq_nil_of_length_eq_zero h.1.symm
  | n + 1, w => by
    rw [pow_succ', mem_oneOf_mul]
    constructor
    · rintro ⟨c, v, hc, hv, rfl⟩
      obtain ⟨rfl, h⟩ := (mem_oneOf_pow n v).1 hv
      exact ⟨rfl, List.forall_mem_cons.2 ⟨hc, h⟩⟩
    · rintro ⟨hlength, h⟩
      cases w with
      | nil => cases hlength
      | cons c v =>
        obtain ⟨hc, hv⟩ := List.forall_mem_cons.1 h
        exact ⟨c, v, hc, (mem_oneOf_pow n v).2 ⟨Nat.succ.inj hlength, hv⟩, rfl⟩

/-- Characters of one kind, so many at least. -/
theorem Spells.many {s : CharSet} {P : Char → Prop} (hs : ∀ c, s.contains c = true ↔ P c) (least : Nat) :
    (Regex.repeated (.one s) least none).Spells (wordsOf fun w => least ≤ w.length ∧ ∀ c ∈ w, P c) := by
  refine ((Spells.one hs).repeated least none).congr fun w => ?_
  constructor
  · rintro ⟨n, hleast, -, hw⟩
    obtain ⟨rfl, h⟩ := (mem_oneOf_pow n w).1 hw
    exact ⟨hleast, h⟩
  · rintro ⟨hleast, h⟩
    exact ⟨w.length, hleast, nofun, (mem_oneOf_pow _ w).2 ⟨rfl, h⟩⟩

theorem spellsOut_textEnd : SpellsOut (.anchor .textEnd) 1 := by
  intro p
  constructor
  · rintro ⟨_, rfl, h⟩
    simpa [Anchor.holds, Language.mem_one] using h
  · intro h
    exact ⟨p, rfl, by simp [Anchor.holds, (Language.mem_one _).1 h]⟩

theorem SpellsOut.seq {a b : Regex} {L M : Language Char} (ha : a.Spells L) (hb : b.SpellsOut M) :
    (Regex.seq a b).SpellsOut (L * M) := by
  intro p
  constructor
  · rintro ⟨q, m, hm, hq⟩
    obtain ⟨u, hu, hpu⟩ := (ha p m).1 hm
    rw [hpu.1]
    exact Language.append_mem_mul hu ((hb m).1 ⟨q, hq⟩)
  · intro h
    obtain ⟨u, hu, v, hv, huv⟩ := Language.mem_mul.1 h
    obtain ⟨q, hq⟩ := (hb ⟨u.getLast?.or p.before, v⟩).2 hv
    exact ⟨q, _, (ha p _).2 ⟨u, hu, huv.symm, rfl⟩, hq⟩

theorem oneOf_mul_eq (d : Char) (L : Language Char) : oneOf (· = d) * L = wordsOf fun w => ∃ v ∈ L, w = d :: v := by
  ext w
  rw [mem_oneOf_mul, mem_wordsOf]
  constructor
  · rintro ⟨c, v, rfl, hv, rfl⟩
    exact ⟨v, hv, rfl⟩
  · rintro ⟨v, hv, rfl⟩
    exact ⟨d, v, rfl, hv, rfl⟩

theorem Spells.char_seq (d : Char) {b : Regex} {L : Language Char} (hb : b.Spells L) :
    (Regex.seq (.char d) b).Spells (wordsOf fun w => ∃ v ∈ L, w = d :: v) :=
  oneOf_mul_eq d L ▸ (Spells.one (single_contains_iff d)).seq hb

theorem SpellsOut.char_seq (d : Char) {b : Regex} {L : Language Char} (hb : b.SpellsOut L) :
    (Regex.seq (.char d) b).SpellsOut (wordsOf fun w => ∃ v ∈ L, w = d :: v) :=
  oneOf_mul_eq d L ▸ SpellsOut.seq (Spells.one (single_contains_iff d)) hb

/-- **A search from the start of the text to its end** succeeds for the words of the language. -/
theorem SpellsOut.search_iff {a : Regex} {L : Language Char} (ha : a.SpellsOut L) (hproper : a.Proper) (text : String) :
    (Regex.seq (.anchor .textStart) a).search text = true ↔ text.toList ∈ L := by
  have hsearched : (Regex.seq (.anchor .textStart) a).Proper := ⟨trivial, hproper⟩
  rw [Regex.search_iff hsearched]
  constructor
  · rintro ⟨u, v, q, htext, _, ⟨rfl, hstart⟩, hq⟩
    obtain rfl : u = [] := List.getLast?_eq_none_iff.1 (Option.isNone_iff_eq_none.1 hstart)
    exact htext ▸ (ha _).1 ⟨q, hq⟩
  · intro h
    obtain ⟨q, hq⟩ := (ha ⟨none, text.toList⟩).2 h
    exact ⟨[], text.toList, q, rfl, ⟨none, text.toList⟩, ⟨rfl, rfl⟩, hq⟩

end Regex
end Schemata
