import Schemata.Pattern.Regex
/-!
# Matching — what an expression matches, and that the search finds it

An expression leads from one place of a text to another (`Regex.Leads`), constructor by constructor: this is what it
means, without a search.  The search holds what may remain to be matched.  That is right because the expressions which
`Regex.next` gives lead from behind a character to where the expression leads from before it (`Regex.next_leads_iff`),
and `Regex.skippable` tells when an expression leads nowhere else.  Walking on, the search says whether the expression
leads from anywhere to anywhere (`Regex.search_iff`).
-/
namespace Schemata

/-- A place in a text: the character before it, none at the start, and what follows it. -/
structure Place where
  before : Option Char
  rest : List Char

/-- The second place is the first one moved on over some characters. -/
def Place.Reads (p : Place) (w : List Char) (q : Place) : Prop :=
  p.rest = w ++ q.rest ∧ q.before = w.getLast?.or p.before

namespace Place

theorem Reads.nil_iff {p q : Place} : p.Reads [] q ↔ p = q := by
  cases p
  cases q
  simp [Reads, eq_comm, and_comm]

theorem Reads.append_iff {p q : Place} {u v : List Char} :
    p.Reads (u ++ v) q ↔ ∃ m, p.Reads u m ∧ m.Reads v q := by
  constructor
  · rintro ⟨hrest, hbefore⟩
    refine ⟨⟨u.getLast?.or p.before, v ++ q.rest⟩, ⟨by rw [hrest, List.append_assoc], rfl⟩, rfl, ?_⟩
    rw [hbefore, List.getLast?_append, Option.or_assoc]
  · rintro ⟨m, hu, hv⟩
    refine ⟨by rw [hu.1, hv.1, List.append_assoc], ?_⟩
    rw [hv.2, hu.2, List.getLast?_append, Option.or_assoc]

theorem Reads.cons_iff {p q : Place} {c : Char} {w : List Char} :
    p.Reads (c :: w) q ↔ ∃ t, p.rest = c :: t ∧ Reads ⟨some c, t⟩ w q := by
  rw [← List.singleton_append, append_iff]
  constructor
  · rintro ⟨⟨_, t⟩, ⟨hrest, rfl⟩, h⟩
    exact ⟨t, hrest, h⟩
  · rintro ⟨t, hrest, h⟩
    exact ⟨⟨some c, t⟩, ⟨hrest, rfl⟩, h⟩

/-- Places of one text that stand equally far from its end are the same. -/
theorem Reads.eq_of_back {p q : Place} {u v : List Char} (hu : p.Reads u q) (hv : q.Reads v p) : p = q := by
  have hlength : p.rest.length = u.length + (v.length + p.rest.length) := by
    have h := congrArg List.length hu.1
    rwa [hv.1, List.length_append, List.length_append] at h
  have hnil : u = [] := List.eq_nil_of_length_eq_zero (by omega)
  exact nil_iff.1 (hnil ▸ hu)

end Place

/-- So many steps, one after the other. -/
def Rounds {α : Type} (step : α → α → Prop) : Nat → α → α → Prop
  | 0, p, q => p = q
  | n + 1, p, q => ∃ m, step p m ∧ Rounds step n m q

theorem Rounds.stay {α : Type} {step : α → α → Prop} {p q : α} (hstay : step p p) : ∀ {k : Nat} (n : Nat),
    Rounds step k p q → Rounds step (n + k) p q
  | k, 0, h => by rwa [Nat.zero_add]
  | k, n + 1, h => by
    rw [Nat.add_right_comm]
    exact ⟨p, hstay, Rounds.stay hstay n h⟩

/-- **Steps that move at all begin with one that does**, after which there is no more of them than before less one; if
none stays, it is the first. -/
theorem Rounds.exists_moving {α : Type} {step : α → α → Prop} {p q : α} (hne : q ≠ p) : ∀ {n : Nat}, Rounds step n p q →
    ∃ m k, step p m ∧ m ≠ p ∧ Rounds step k m q ∧ k + 1 ≤ n ∧ (¬ step p p → k + 1 = n)
  | 0, h => absurd h.symm hne
  | n + 1, ⟨m, hfirst, hmore⟩ => by
    by_cases hm : m = p
    · subst hm
      obtain ⟨m', k, hm', hne', hk, hle, -⟩ := Rounds.exists_moving hne hmore
      exact ⟨m', k, hm', hne', hk, by omega, fun hstay => absurd hfirst hstay⟩
    · exact ⟨m, n, hfirst, hm, hmore, Nat.le_refl _, fun _ => rfl⟩

namespace Regex

/-- **An expression leads from one place to another** if it matches what lies between them, standing there. -/
def Leads : Regex → Place → Place → Prop
  | .empty, p, q => p = q
  | .one s, p, q => ∃ c, s.contains c = true ∧ p.Reads [c] q
  | .anchor a, p, q => p = q ∧ a.holds p.before p.rest.head? = true
  | .seq a b, p, q => ∃ m, a.Leads p m ∧ b.Leads m q
  | .alt a b, p, q => a.Leads p q ∨ b.Leads p q
  | .repeated a least most, p, q => ∃ n, least ≤ n ∧ (∀ m ∈ most, n ≤ m) ∧ Rounds a.Leads n p q

/-- No repetition asks for more rounds than it allows. -/
def Proper : Regex → Prop
  | .seq a b => a.Proper ∧ b.Proper
  | .alt a b => a.Proper ∧ b.Proper
  | .repeated a least most => a.Proper ∧ ∀ m ∈ most, least ≤ m
  | _ => True

theorem exists_reads_of_rounds {step : Place → Place → Prop} (hstep : ∀ p q, step p q → ∃ w, p.Reads w q) :
    ∀ {n : Nat} {p q : Place}, Rounds step n p q → ∃ w, p.Reads w q
  | 0, _, _, h => ⟨[], Place.Reads.nil_iff.2 h⟩
  | _ + 1, _, _, ⟨m, hfirst, hmore⟩ => by
    obtain ⟨u, hu⟩ := hstep _ m hfirst
    obtain ⟨v, hv⟩ := exists_reads_of_rounds hstep hmore
    exact ⟨u ++ v, Place.Reads.append_iff.2 ⟨m, hu, hv⟩⟩

/-- **Matching only moves on.** -/
theorem Leads.exists_reads : ∀ {a : Regex} {p q : Place}, a.Leads p q → ∃ w, p.Reads w q
  | .empty, _, _, h => ⟨[], Place.Reads.nil_iff.2 h⟩
  | .one _, _, _, ⟨c, _, h⟩ => ⟨[c], h⟩
  | .anchor _, _, _, h => ⟨[], Place.Reads.nil_iff.2 h.1⟩
  | .seq _ _, _, _, ⟨m, ha, hb⟩ => by
    obtain ⟨u, hu⟩ := ha.exists_reads
    obtain ⟨v, hv⟩ := hb.exists_reads
    exact ⟨u ++ v, Place.Reads.append_iff.2 ⟨m, hu, hv⟩⟩
  | .alt _ _, _, _, h => h.elim exists_reads exists_reads
  | .repeated _ _ _, _, _, ⟨_, _, _, h⟩ => exists_reads_of_rounds (fun _ _ => exists_reads) h

theorem Leads.eq_of_back {a b : Regex} {p m : Place} (ha : a.Leads p m) (hb : b.Leads m p) : m = p := by
  obtain ⟨_, hu⟩ := ha.exists_reads
  obtain ⟨_, hv⟩ := hb.exists_reads
  exact (hu.eq_of_back hv).symm

theorem Leads.eq_of_back_rounds {a : Regex} {p m : Place} {n : Nat} (ha : a.Leads p m) (h : Rounds a.Leads n m p) :
    m = p := by
  obtain ⟨_, hu⟩ := ha.exists_reads
  obtain ⟨_, hv⟩ := exists_reads_of_rounds (fun _ _ => Leads.exists_reads) h
  exact (hu.eq_of_back hv).symm

/-! ## One position -/

/-- **What may be skipped at a place matches nothing there**, and only that does. -/
theorem skippable_iff (p : Place) : ∀ {a : Regex}, a.Proper → (a.skippable p.before p.rest.head? = true ↔ a.Leads p p)
  | .empty, _ => by simp [skippable, Leads]
  | .one s, _ => by
    refine iff_of_false Bool.false_ne_true ?_
    rintro ⟨c, -, hrest, -⟩
    simpa using congrArg List.length hrest
  | .anchor a, _ => by simp [skippable, Leads]
  | .seq a b, ⟨ha, hb⟩ => by
    rw [skippable, Bool.and_eq_true, skippable_iff p ha, skippable_iff p hb]
    constructor
    · exact fun h => ⟨p, h⟩
    · rintro ⟨m, hm, hp⟩
      obtain rfl := hm.eq_of_back hp
      exact ⟨hm, hp⟩
  | .alt a b, ⟨ha, hb⟩ => by
    rw [skippable, Bool.or_eq_true, skippable_iff p ha, skippable_iff p hb]
    rfl
  | .repeated a least most, ⟨ha, hmost⟩ => by
    rw [skippable, Bool.or_eq_true, beq_iff_eq, skippable_iff p ha]
    constructor
    · rintro (rfl | h)
      · exact ⟨0, Nat.le_refl _, fun _ _ => Nat.zero_le _, rfl⟩
      · exact ⟨least, Nat.le_refl _, hmost, Rounds.stay h least (k := 0) rfl⟩
    · rintro ⟨n, hleast, -, h⟩
      cases n with
      | zero => exact .inl (Nat.le_zero.1 hleast)
      | succ n =>
        obtain ⟨m, hm, hmore⟩ := h
        obtain rfl := hm.eq_of_back_rounds hmore
        exact .inr hm

theorem followedBy_leads (b a : Regex) (p q : Place) : (followedBy b a).Leads p q ↔ ∃ m, a.Leads p m ∧ b.Leads m q := by
  cases a <;> simp [followedBy, Leads]

/-- What leads on after a character, from where it stands. -/
def LeadsOn (remaining : List Regex) (p q : Place) : Prop := ∃ d ∈ remaining, d.Leads p q

theorem leadsOn_append {as bs : List Regex} {p q : Place} :
    LeadsOn (as ++ bs) p q ↔ LeadsOn as p q ∨ LeadsOn bs p q := by
  simp only [LeadsOn, List.mem_append, or_and_right, exists_or]

theorem leadsOn_map_followedBy {as : List Regex} {b : Regex} {p q : Place} :
    LeadsOn (as.map (followedBy b)) p q ↔ ∃ m, LeadsOn as p m ∧ b.Leads m q := by
  simp only [LeadsOn, List.mem_map]
  constructor
  · rintro ⟨_, ⟨d, hd, rfl⟩, h⟩
    obtain ⟨m, hm, hq⟩ := (followedBy_leads b d p q).1 h
    exact ⟨m, ⟨d, hd, hm⟩, hq⟩
  · rintro ⟨m, ⟨d, hd, hm⟩, hq⟩
    exact ⟨_, ⟨d, hd, rfl⟩, (followedBy_leads b d p q).2 ⟨m, hm, hq⟩⟩

/-- A sequence that moves does so in its first part or, if that may stay, in its second. -/
theorem seq_leads_iff {a b : Regex} {p q : Place} : (Regex.seq a b).Leads p q ∧ q ≠ p ↔
    (∃ m, (a.Leads p m ∧ m ≠ p) ∧ b.Leads m q) ∨ (a.Leads p p ∧ b.Leads p q ∧ q ≠ p) := by
  constructor
  · rintro ⟨⟨m, hm, hq⟩, hne⟩
    by_cases hmove : m = p
    · subst hmove
      exact .inr ⟨hm, hq, hne⟩
    · exact .inl ⟨m, ⟨hm, hmove⟩, hq⟩
  · rintro (⟨m, ⟨hm, hmove⟩, hq⟩ | ⟨hp, hq, hne⟩)
    · refine ⟨⟨m, hm, hq⟩, ?_⟩
      rintro rfl
      exact hmove (hm.eq_of_back hq)
    · exact ⟨⟨p, hp, hq⟩, hne⟩

/-- A repetition that moves makes one round that does, and owes what is left of its counts: nothing, if it may stay. -/
theorem repeated_leads_iff {a : Regex} {least : Nat} {most : Option Nat} (hmost : ∀ m ∈ most, least ≤ m) {p q : Place}
    (owed : Nat) (hstays : a.Leads p p → owed = 0) (hmoves : ¬ a.Leads p p → owed = least - 1) :
    (Regex.repeated a least most).Leads p q ∧ q ≠ p ↔
      most ≠ some 0 ∧ ∃ m, (a.Leads p m ∧ m ≠ p) ∧ (Regex.repeated a owed (most.map (· - 1))).Leads m q := by
  constructor
  · rintro ⟨⟨n, hleast, hn, h⟩, hne⟩
    obtain ⟨m, k, hm, hmove, hk, hle, heq⟩ := h.exists_moving hne
    refine ⟨?_, m, ⟨hm, hmove⟩, k, ?_, fun bound hbound => ?_, hk⟩
    · rintro rfl
      have := hn 0 rfl
      omega
    · by_cases hstay : a.Leads p p
      · rw [hstays hstay]
        exact Nat.zero_le _
      · rw [hmoves hstay]
        have := heq hstay
        omega
    · obtain ⟨b, hb, rfl⟩ := Option.map_eq_some_iff.1 hbound
      have := hn b hb
      omega
  · rintro ⟨hzero, m, ⟨hm, hmove⟩, k, howed, hk, h⟩
    have hbound : ∀ b ∈ most, k + 1 ≤ b := fun b hb => by
      have hpos : b ≠ 0 := fun h0 => hzero (h0 ▸ hb)
      have := hk (b - 1) (Option.map_eq_some_iff.2 ⟨b, hb, rfl⟩)
      omega
    refine ⟨?_, ?_⟩
    · by_cases hstay : a.Leads p p
      · -- rounds that stay, put in front, make up for those that are missing
        refine ⟨least - (k + 1) + (k + 1), by omega, fun b hb => ?_, Rounds.stay hstay _ ⟨m, hm, h⟩⟩
        have := hbound b hb
        have := hmost b hb
        omega
      · have := hmoves hstay
        exact ⟨k + 1, by omega, hbound, m, hm, h⟩
    · rintro rfl
      exact hmove (hm.eq_of_back_rounds h)

/-- **What remains after a character leads from behind it to where the expression leads from before it**, if that is
anywhere else. -/
theorem next_leads_iff {b : Option Char} {c : Char} {t : List Char} : ∀ {a : Regex}, a.Proper → ∀ {q : Place},
    LeadsOn (a.next b c) ⟨some c, t⟩ q ↔ a.Leads ⟨b, c :: t⟩ q ∧ q ≠ ⟨b, c :: t⟩
  | .empty, _, q => by
    refine iff_of_false (by simp [LeadsOn, next]) ?_
    rintro ⟨rfl, h⟩
    exact h rfl
  | .one s, _, q => by
    constructor
    · simp only [LeadsOn, next]
      split
      · rintro ⟨_, hd, h⟩
        obtain rfl := List.mem_singleton.1 hd
        obtain rfl : _ = q := h
        exact ⟨⟨c, ‹_›, rfl, rfl⟩, fun h => by simpa using congrArg (·.rest.length) h⟩
      · rintro ⟨_, hd, _⟩
        cases hd
    · rintro ⟨⟨d, hd, h⟩, -⟩
      obtain ⟨_, hrest, h⟩ := Place.Reads.cons_iff.1 h
      obtain ⟨rfl, rfl⟩ := List.cons.inj hrest
      exact ⟨.empty, by simp [next, hd], Place.Reads.nil_iff.1 h⟩
  | .anchor a, _, q => by
    refine iff_of_false (by simp [LeadsOn, next]) ?_
    rintro ⟨⟨rfl, -⟩, h⟩
    exact h rfl
  | .seq a d, ⟨ha, hd⟩, q => by
    have hskip := skippable_iff ⟨b, c :: t⟩ ha
    rw [seq_leads_iff, next, leadsOn_append, leadsOn_map_followedBy]
    simp only [next_leads_iff ha, ← hskip, ← next_leads_iff hd]
    refine or_congr_right ?_
    split
    · exact (and_iff_right ‹_›).symm
    · refine iff_of_false (by simp [LeadsOn]) fun h => absurd h.1 ‹_›
  | .alt a d, ⟨ha, hd⟩, q => by
    rw [next, leadsOn_append, next_leads_iff ha, next_leads_iff hd, ← or_and_right]
    rfl
  | .repeated a least most, ⟨ha, hmost⟩, q => by
    have hskip := skippable_iff ⟨b, c :: t⟩ ha
    rw [repeated_leads_iff hmost (if a.skippable b (some c) then 0 else least - 1) (fun h => if_pos (hskip.2 h))
      fun h => if_neg (mt hskip.1 h), next]
    split
    · exact iff_of_false (by simp [LeadsOn]) fun h => h.1 ‹_›
    · simp only [leadsOn_map_followedBy, next_leads_iff ha]
      exact (and_iff_right ‹_›).symm

theorem proper_followedBy {a b : Regex} (ha : a.Proper) (hb : b.Proper) : (followedBy b a).Proper := by
  cases a
  case empty => exact hb
  all_goals exact ⟨ha, hb⟩

theorem proper_next {b : Option Char} {c : Char} : ∀ {a : Regex}, a.Proper → ∀ d ∈ a.next b c, d.Proper
  | .empty, _, _, hd => by cases hd
  | .one s, _, d, hd => by
    simp only [next] at hd
    split at hd
    · obtain rfl := List.mem_singleton.1 hd
      trivial
    · cases hd
  | .anchor _, _, _, hd => by cases hd
  | .seq a a', ⟨ha, ha'⟩, d, hd => by
    obtain hd | hd := List.mem_append.1 hd
    · obtain ⟨e, he, rfl⟩ := List.mem_map.1 hd
      exact proper_followedBy (proper_next ha e he) ha'
    · split at hd
      · exact proper_next ha' d hd
      · cases hd
  | .alt a a', ⟨ha, ha'⟩, d, hd => (List.mem_append.1 hd).elim (proper_next ha d) (proper_next ha' d)
  | .repeated a least most, ⟨ha, hmost⟩, d, hd => by
    simp only [next] at hd
    split at hd
    · cases hd
    · obtain ⟨e, he, rfl⟩ := List.mem_map.1 hd
      refine proper_followedBy (proper_next ha e he) ⟨ha, fun bound hbound => ?_⟩
      obtain ⟨m, hm, rfl⟩ := Option.map_eq_some_iff.1 hbound
      have := hmost m hm
      split <;> omega

/-! ## Walking on -/

/-- An expression leads from some place of a text to another, where a character may stand before the text. -/
def LeadsWithin (r : Regex) (before : Option Char) (text : List Char) : Prop :=
  ∃ u v q, text = u ++ v ∧ r.Leads ⟨u.getLast?.or before, v⟩ q

theorem getLast?_cons_or (c : Char) (u : List Char) (before : Option Char) :
    (c :: u).getLast?.or before = u.getLast?.or (some c) := by
  rw [List.getLast?_cons]
  cases u.getLast? <;> rfl

theorem leadsWithin_cons {r : Regex} {before : Option Char} {c : Char} {text : List Char} :
    r.LeadsWithin before (c :: text) ↔ (∃ q, r.Leads ⟨before, c :: text⟩ q) ∨ r.LeadsWithin (some c) text := by
  constructor
  · rintro ⟨u, v, q, h, hq⟩
    cases u with
    | nil =>
      obtain rfl : c :: text = v := h
      exact .inl ⟨q, hq⟩
    | cons d u =>
      obtain ⟨rfl, rfl⟩ := List.cons.inj h
      exact .inr ⟨u, v, q, rfl, getLast?_cons_or c u before ▸ hq⟩
  · rintro (⟨q, hq⟩ | ⟨u, v, q, rfl, hq⟩)
    · exact ⟨[], c :: text, q, rfl, hq⟩
    · exact ⟨c :: u, v, q, rfl, (getLast?_cons_or c u before).symm ▸ hq⟩

theorem any_skippable_iff {held : List Regex} (hheld : ∀ a ∈ held, a.Proper) (p : Place) :
    held.any (skippable p.before p.rest.head?) = true ↔ LeadsOn held p p := by
  rw [List.any_eq_true]
  exact exists_congr fun a => and_congr_right fun ha => skippable_iff p (hheld a ha)

theorem leadsOn_flatMap_next {held : List Regex} (hheld : ∀ a ∈ held, a.Proper) {before : Option Char} {c : Char}
    {rest : List Char} {q : Place} : LeadsOn (held.flatMap (next before c)) ⟨some c, rest⟩ q ↔
      LeadsOn held ⟨before, c :: rest⟩ q ∧ q ≠ ⟨before, c :: rest⟩ := by
  constructor
  · rintro ⟨d, hd, h⟩
    obtain ⟨a, ha, hd⟩ := List.mem_flatMap.1 hd
    obtain ⟨h, hne⟩ := (next_leads_iff (hheld a ha)).1 ⟨d, hd, h⟩
    exact ⟨⟨a, ha, h⟩, hne⟩
  · rintro ⟨⟨a, ha, h⟩, hne⟩
    obtain ⟨d, hd, h⟩ := (next_leads_iff (hheld a ha)).2 ⟨h, hne⟩
    exact ⟨d, List.mem_flatMap.2 ⟨a, ha, hd⟩, h⟩

/-- What is held after a character: what remains, and the whole expression. -/
theorem leadsOn_distinct {remaining : List Regex} {r : Regex} {p q : Place} :
    LeadsOn (distinct (remaining ++ [r])) p q ↔ LeadsOn remaining p q ∨ r.Leads p q := by
  have hmem : LeadsOn (distinct (remaining ++ [r])) p q ↔ LeadsOn (remaining ++ [r]) p q :=
    exists_congr fun a => and_congr_left fun _ => mem_distinct a _
  rw [hmem, leadsOn_append]
  simp [LeadsOn]

/-- **The walk succeeds if one of the expressions held leads on from here**, or the whole one from further on. -/
theorem searchFrom_iff {r : Regex} (hr : r.Proper) : ∀ (text : List Char) (before : Option Char) (held : List Regex),
    r ∈ held → (∀ a ∈ held, a.Proper) →
      (r.searchFrom before held text = true ↔ (∃ q, LeadsOn held ⟨before, text⟩ q) ∨ r.LeadsWithin before text)
  | [], before, held, hmem, hheld => by
    rw [searchFrom]
    refine (any_skippable_iff hheld ⟨before, []⟩).trans ?_
    constructor
    · exact fun h => .inl ⟨_, h⟩
    · -- nothing is left to read, so no expression leads anywhere else
      have hstay : ∀ a ∈ held, ∀ q, a.Leads ⟨before, []⟩ q → LeadsOn held ⟨before, []⟩ ⟨before, []⟩ := by
        intro a ha q h
        obtain ⟨w, hrest, hbefore⟩ := h.exists_reads
        obtain ⟨rfl, -⟩ := List.append_eq_nil_iff.1 hrest.symm
        obtain rfl : _ = q := Place.Reads.nil_iff.1 ⟨hrest, hbefore⟩
        exact ⟨a, ha, h⟩
      rintro (⟨q, a, ha, h⟩ | ⟨u, v, q, huv, h⟩)
      · exact hstay a ha q h
      · obtain ⟨rfl, rfl⟩ := List.append_eq_nil_iff.1 huv.symm
        exact hstay r hmem q h
  | c :: rest, before, held, hmem, hheld => by
    have hproper : ∀ a ∈ distinct (held.flatMap (next before c) ++ [r]), a.Proper := fun a ha => by
      obtain ha | ha := List.mem_append.1 ((mem_distinct a _).1 ha)
      · obtain ⟨d, hd, ha⟩ := List.mem_flatMap.1 ha
        exact proper_next (hheld d hd) a ha
      · obtain rfl := List.mem_singleton.1 ha
        exact hr
    have ih := searchFrom_iff hr rest (some c) (distinct (held.flatMap (next before c) ++ [r]))
      ((mem_distinct r _).2 (List.mem_append_right _ (List.mem_singleton_self r))) hproper
    have hskip := any_skippable_iff hheld ⟨before, c :: rest⟩
    rw [searchFrom, Bool.or_eq_true, ih, leadsWithin_cons]
    simp only [leadsOn_distinct, leadsOn_flatMap_next hheld]
    constructor
    · rintro (hstay | ⟨q, ⟨h, -⟩ | h⟩ | h)
      · exact .inl ⟨_, hskip.1 hstay⟩
      · exact .inl ⟨q, h⟩
      · exact .inr (.inr ⟨[], rest, q, rfl, h⟩)
      · exact .inr (.inr h)
    · have hleads : ∀ q, LeadsOn held ⟨before, c :: rest⟩ q → held.any (skippable before (some c)) = true ∨
          LeadsOn held ⟨before, c :: rest⟩ q ∧ q ≠ ⟨before, c :: rest⟩ := fun q h => by
        by_cases hq : q = ⟨before, c :: rest⟩
        · exact .inl (hskip.2 (hq ▸ h))
        · exact .inr ⟨h, hq⟩
      rintro (⟨q, h⟩ | ⟨q, h⟩ | h)
      · exact (hleads q h).imp_right fun h => .inl ⟨q, .inl h⟩
      · exact (hleads q ⟨r, hmem, h⟩).imp_right fun h => .inl ⟨q, .inl h⟩
      · exact .inr (.inr h)

/-- **The search succeeds just when the expression leads from some place of the text to another.** -/
theorem search_iff {r : Regex} (hr : r.Proper) (text : String) :
    r.search text = true ↔ ∃ u v q, text.toList = u ++ v ∧ r.Leads ⟨u.getLast?, v⟩ q := by
  have hone : ∀ a ∈ [r], a.Proper := fun a ha => (List.mem_singleton.1 ha).symm ▸ hr
  rw [search, searchFrom_iff hr text.toList none [r] (List.mem_singleton_self r) hone]
  constructor
  · rintro (⟨q, a, ha, h⟩ | ⟨u, v, q, htext, h⟩)
    · obtain rfl := List.mem_singleton.1 ha
      exact ⟨[], text.toList, q, rfl, h⟩
    · rw [Option.or_none] at h
      exact ⟨u, v, q, htext, h⟩
  · rintro ⟨u, v, q, htext, h⟩
    refine .inr ⟨u, v, q, htext, ?_⟩
    rwa [Option.or_none]

/-! ## Expressions that lead alike -/

/-- Two expressions lead from the same places to the same places. -/
def Same (a b : Regex) : Prop := ∀ p q, a.Leads p q ↔ b.Leads p q

namespace Same

variable {a b c d : Regex}

theorem refl (a : Regex) : a.Same a := fun _ _ => Iff.rfl

theorem symm (h : a.Same b) : b.Same a := fun p q => (h p q).symm

theorem trans (hab : a.Same b) (hbc : b.Same c) : a.Same c := fun p q => (hab p q).trans (hbc p q)

theorem one {s t : CharSet} (h : ∀ c, s.contains c = t.contains c) : (Regex.one s).Same (.one t) := fun p q =>
  exists_congr fun c => by rw [h c]

theorem seq (hab : a.Same b) (hcd : c.Same d) : (Regex.seq a c).Same (.seq b d) := fun p q =>
  exists_congr fun m => and_congr (hab p m) (hcd m q)

theorem seq_assoc (a b c : Regex) : (Regex.seq (.seq a b) c).Same (.seq a (.seq b c)) := fun p q => by
  constructor
  · rintro ⟨n, ⟨m, ha, hb⟩, hc⟩
    exact ⟨m, ha, n, hb, hc⟩
  · rintro ⟨m, ha, n, hb, hc⟩
    exact ⟨n, ⟨m, ha, hb⟩, hc⟩

theorem repeated (hab : a.Same b) (least : Nat) (most : Option Nat) :
    (Regex.repeated a least most).Same (.repeated b least most) := fun p q => by
  have hleads : a.Leads = b.Leads := funext fun p => funext fun q => propext (hab p q)
  simp only [Leads, hleads]

/-- **Expressions that lead alike are found in the same texts.** -/
theorem search_eq (hab : a.Same b) (ha : a.Proper) (hb : b.Proper) (text : String) : a.search text = b.search text := by
  rw [Bool.eq_iff_iff, search_iff ha, search_iff hb]
  simp only [hab _ _]

end Same
end Regex
end Schemata
