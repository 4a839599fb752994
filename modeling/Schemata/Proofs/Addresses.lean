import Schemata.Pattern.Email
import Schemata.Pattern.Reader
import Schemata.Proofs.Languages
import Schemata.Validator.Text
/-!
# Addresses — what the email rule accepts

An address is told by splitting it (`Email.IsAddress`): at its one at sign, and what stands behind that at its points.
The rule searches with an expression instead, and the language that `Email.address` spells out is that of the addresses
(`Email.accepts_iff`).  The text in which the pattern is written reads as an expression of the same language
(`Email.exists_read_source`).
-/
namespace Schemata
namespace Email

/-! ## The grammar -/

/-- What may stand before the at sign. -/
def IsLocal (text : List Char) : Prop :=
  text ≠ [] ∧ ∀ c ∈ text, c.isAlphanum = true ∨ c ∈ ['.', '_', '%', '+', '-']

/-- A part of the domain but for the last. -/
def IsLabel (text : List Char) : Prop :=
  text ≠ [] ∧ (∀ c ∈ text, c.isAlphanum = true ∨ c = '-') ∧ text.head? ≠ some '-' ∧ text.getLast? ≠ some '-'

/-- The last part of the domain. -/
def IsTop (text : List Char) : Prop := 2 ≤ text.length ∧ ∀ c ∈ text, c.isAlpha = true

/-- What may stand behind the at sign: two parts or more, with points between them. -/
def IsDomain (text : List Char) : Prop :=
  2 ≤ (text.splitOn '.').length ∧ (∀ label ∈ (text.splitOn '.').dropLast, IsLabel label) ∧
    ∀ top ∈ (text.splitOn '.').getLast?, IsTop top

/-- **An address**: one at sign, with a local part before it and a domain behind it. -/
def IsAddress (text : List Char) : Prop :=
  text.count '@' = 1 ∧ IsLocal (text.takeWhile (· ≠ '@')) ∧ IsDomain (text.dropWhile (· ≠ '@')).tail

-- the characters of a text are gone through, and not all characters

instance : DecidablePred IsLocal := fun text =>
  decidable_of_iff (text ≠ [] ∧ (text.all fun c => c.isAlphanum || c ∈ ['.', '_', '%', '+', '-']) = true)
    (by simp [IsLocal])

instance : DecidablePred IsLabel := fun text =>
  decidable_of_iff (text ≠ [] ∧ (text.all fun c => c.isAlphanum || c = '-') = true ∧ text.head? ≠ some '-' ∧
    text.getLast? ≠ some '-') (by simp [IsLabel])

instance : DecidablePred IsTop := fun text =>
  decidable_of_iff (2 ≤ text.length ∧ text.all Char.isAlpha = true) (by simp [IsTop])

instance : DecidablePred IsDomain := fun text =>
  decidable_of_iff (2 ≤ (text.splitOn '.').length ∧
    ((text.splitOn '.').dropLast.all fun label => IsLabel label) = true ∧
    ((text.splitOn '.').getLast?.toList.all fun top => IsTop top) = true) (by simp [IsDomain])

instance : DecidablePred IsAddress := fun text =>
  inferInstanceAs (Decidable (text.count '@' = 1 ∧ IsLocal (text.takeWhile (· ≠ '@')) ∧
    IsDomain (text.dropWhile (· ≠ '@')).tail))

theorem IsLocal.not_mem {text : List Char} (h : IsLocal text) : '@' ∉ text := fun hmem =>
  absurd (h.2 '@' hmem) (by decide)

theorem IsLabel.not_mem {text : List Char} (h : IsLabel text) {c : Char} (hc : c = '.' ∨ c = '@') : c ∉ text :=
  fun hmem => absurd (h.2.1 c hmem) (by obtain rfl | rfl := hc <;> decide)

theorem IsTop.not_mem {text : List Char} (h : IsTop text) {c : Char} (hc : c = '.' ∨ c = '@') : c ∉ text :=
  fun hmem => absurd (h.2 c hmem) (by obtain rfl | rfl := hc <;> decide)

theorem intercalate_cons_eq (first : List Char) : ∀ more : List (List Char),
    ['.'].intercalate (first :: more) = first ++ more.flatMap ('.' :: ·)
  | [] => by simp
  | next :: more => by
    rw [List.intercalate_cons_cons, intercalate_cons_eq next more]
    simp

/-- A domain is a label, more of them behind points, and a top behind the last point. -/
theorem isDomain_iff (text : List Char) : IsDomain text ↔ ∃ (first : List Char) (more : List (List Char))
    (top : List Char), IsLabel first ∧ (∀ label ∈ more, IsLabel label) ∧ IsTop top ∧
      text = first ++ more.flatMap ('.' :: ·) ++ '.' :: top := by
  have hjoined : ∀ (first : List Char) (more : List (List Char)) (top : List Char),
      first ++ more.flatMap ('.' :: ·) ++ '.' :: top = ['.'].intercalate (first :: more ++ [top]) := by
    intro first more top
    rw [List.cons_append, intercalate_cons_eq]
    simp
  constructor
  · rintro ⟨hlength, hlabels, htop⟩
    have hne : text.splitOn '.' ≠ [] := fun h => by simp [h] at hlength
    have hsplit := List.dropLast_concat_getLast hne
    have htop := htop _ (List.getLast?_eq_some_getLast hne)
    cases hinit : (text.splitOn '.').dropLast with
    | nil =>
      have := congrArg List.length hinit
      rw [List.length_dropLast, List.length_nil] at this
      omega
    | cons first more =>
      rw [hinit] at hlabels hsplit
      obtain ⟨hfirst, hmore⟩ := List.forall_mem_cons.1 hlabels
      refine ⟨first, more, _, hfirst, hmore, htop, ?_⟩
      rw [hjoined, hsplit, List.intercalate_splitOn]
  · rintro ⟨first, more, top, hfirst, hmore, htop, rfl⟩
    have hlabels : ∀ label ∈ first :: more, IsLabel label := List.forall_mem_cons.2 ⟨hfirst, hmore⟩
    have hpoint : ∀ part ∈ first :: more ++ [top], '.' ∉ part := fun part hpart => by
      obtain hpart | hpart := List.mem_append.1 hpart
      · exact (hlabels part hpart).not_mem (.inl rfl)
      · exact (List.mem_singleton.1 hpart ▸ htop).not_mem (.inl rfl)
    rw [IsDomain, hjoined, List.splitOn_intercalate '.' hpoint (by simp), List.dropLast_concat]
    refine ⟨by simp, hlabels, fun t ht => ?_⟩
    rw [List.getLast?_concat] at ht
    exact Option.some.inj ht ▸ htop

theorem IsDomain.not_mem {text : List Char} (h : IsDomain text) : '@' ∉ text := by
  obtain ⟨first, more, top, hfirst, hmore, htop, rfl⟩ := (isDomain_iff text).1 h
  have hlabels : '@' ∉ more.flatMap ('.' :: ·) := fun hmem => by
    obtain ⟨label, hlabel, hmem⟩ := List.mem_flatMap.1 hmem
    exact (hmore label hlabel).not_mem (.inr rfl) ((List.mem_cons.1 hmem).resolve_left (by decide))
  simp [hfirst.not_mem (.inr rfl), hlabels, htop.not_mem (.inr rfl)]

/-- An address is a local part and a domain with an at sign between them. -/
theorem isAddress_iff (text : List Char) : IsAddress text ↔
    ∃ before after, IsLocal before ∧ IsDomain after ∧ text = before ++ '@' :: after := by
  constructor
  · rintro ⟨hcount, hlocal, hdomain⟩
    refine ⟨_, _, hlocal, hdomain, ?_⟩
    have hmem : '@' ∈ text := List.count_pos_iff.1 (hcount ▸ Nat.one_pos)
    obtain ⟨before, after, rfl, hbefore⟩ := List.eq_append_cons_of_mem hmem
    have hne : ∀ c ∈ before, decide (c ≠ '@') = true := fun c hc => decide_eq_true (ne_of_mem_of_not_mem hc hbefore)
    rw [List.takeWhile_append_of_pos hne, List.dropWhile_append_of_pos hne]
    simp
  · rintro ⟨before, after, hlocal, hdomain, rfl⟩
    have hne : ∀ c ∈ before, decide (c ≠ '@') = true := fun c hc =>
      decide_eq_true (ne_of_mem_of_not_mem hc hlocal.not_mem)
    refine ⟨?_, ?_, ?_⟩
    · rw [List.count_append, List.count_cons_self, List.count_eq_zero.2 hlocal.not_mem,
        List.count_eq_zero.2 hdomain.not_mem]
    · rw [List.takeWhile_append_of_pos hne]
      simpa using hlocal
    · rw [List.dropWhile_append_of_pos hne]
      simpa using hdomain

open Regex

/-! ## The expression -/

theorem letter_contains_iff (c : Char) : letter.contains c = true ↔ c.isAlpha = true := by
  delta Char.isAlpha Char.isUpper Char.isLower
  simp [letter, CharSet.ofRanges, CharSet.contains, Char.le_def]

theorem letterOrDigit_contains_iff (c : Char) : letterOrDigit.contains c = true ↔ c.isAlphanum = true := by
  delta Char.isAlphanum Char.isAlpha Char.isUpper Char.isLower Char.isDigit
  simp [letterOrDigit, CharSet.ofRanges, CharSet.contains, Char.le_def, or_assoc]

theorem letterDigitOrHyphen_contains_iff (c : Char) :
    letterDigitOrHyphen.contains c = true ↔ c.isAlphanum = true ∨ c = '-' := by
  rw [← letterOrDigit_contains_iff, ← single_contains_iff]
  exact Bool.or_eq_true_iff

theorem union_contains (a b : CharSet) (c : Char) : (CharSet.union a b).contains c = (a.contains c || b.contains c) :=
  rfl

theorem none_contains (c : Char) : CharSet.none.contains c = false := rfl

theorem localPart_contains_iff (c : Char) :
    localPart.contains c = true ↔ c.isAlphanum = true ∨ c ∈ ['.', '_', '%', '+', '-'] := by
  rw [← letterOrDigit_contains_iff]
  have hsingle : ∀ d, (CharSet.range d d).contains c = true ↔ c = d := fun d => single_contains_iff d c
  simp [localPart, CharSet.ofRanges, union_contains, none_contains, hsingle]

theorem label_spells : label.Spells (wordsOf IsLabel) := by
  have hedge := Spells.one letterOrDigit_contains_iff
  refine (hedge.seq ((Spells.many letterDigitOrHyphen_contains_iff 0).seq hedge).opt).congr fun w => ?_
  have hyphen : ∀ c : Char, c.isAlphanum = true → some c ≠ some '-' := fun c hc h =>
    absurd (Option.some.inj h ▸ hc) (by decide)
  have alphanum : ∀ c : Char, (c.isAlphanum = true ∨ c = '-') → some c ≠ some '-' → c.isAlphanum = true :=
    fun c hc hne => hc.resolve_right fun h => hne (congrArg some h)
  simp only [mem_oneOf_mul, Language.mem_add, Language.mem_one, mem_mul_oneOf, mem_wordsOf]
  constructor
  · rintro ⟨c, _, hc, rfl | ⟨inner, d, ⟨-, hinner⟩, hd, rfl⟩, rfl⟩
    · exact ⟨nofun, by simp [hc], hyphen c hc, hyphen c hc⟩
    · refine ⟨nofun, ?_, hyphen c hc, ?_⟩
      · simpa [or_imp, forall_and, hc, hd] using hinner
      · rw [← List.cons_append, List.getLast?_concat]
        exact hyphen d hd
  · rintro ⟨hne, hall, hhead, hlast⟩
    obtain _ | ⟨c, w⟩ := w
    · exact absurd rfl hne
    · obtain ⟨hc, hw⟩ := List.forall_mem_cons.1 hall
      refine ⟨c, w, alphanum c hc hhead, ?_, rfl⟩
      obtain rfl | ⟨inner, d, rfl⟩ := List.eq_nil_or_concat w
      · exact .inl rfl
      · rw [List.concat_eq_append] at hw hlast ⊢
        rw [← List.cons_append, List.getLast?_concat] at hlast
        exact .inr ⟨inner, d, ⟨Nat.zero_le _, fun e he => hw e (List.mem_append_left _ he)⟩,
          alphanum d (hw d (by simp)) hlast, rfl⟩

/-- The labels after the first, each behind its point. -/
theorem labels_spells : (Regex.star (.seq (.char '.') label)).Spells
    (wordsOf fun w => ∃ labels : List (List Char), (∀ label ∈ labels, IsLabel label) ∧
      w = labels.flatMap ('.' :: ·)) := by
  refine (label_spells.char_seq '.').star.congr fun w => ?_
  rw [Language.mem_kstar, mem_wordsOf]
  constructor
  · rintro ⟨pieces, rfl, hpieces⟩
    refine ⟨pieces.map List.tail, ?_, ?_⟩
    · intro label hlabel
      obtain ⟨piece, hpiece, rfl⟩ := List.mem_map.1 hlabel
      obtain ⟨_, hword, rfl⟩ := hpieces piece hpiece
      exact hword
    · have hpoints : pieces.map (fun piece => '.' :: piece.tail) = pieces.map id :=
        List.map_congr_left fun piece hpiece => by
          obtain ⟨label, -, rfl⟩ := hpieces piece hpiece
          rfl
      rw [List.flatMap_map, List.flatMap_def, hpoints, List.map_id]
  · rintro ⟨labels, hlabels, rfl⟩
    refine ⟨labels.map ('.' :: ·), rfl, fun piece hpiece => ?_⟩
    obtain ⟨label, hlabel, rfl⟩ := List.mem_map.1 hpiece
    exact ⟨label, hlabels label hlabel, rfl⟩

/-- The expression for what stands behind the at sign. -/
def domain : Regex :=
  .sequence [label, .star (.seq (.char '.') label), .char '.', .repeated (.one letter) 2 none, .anchor .textEnd]

theorem domain_spellsOut : domain.SpellsOut (wordsOf IsDomain) := by
  have htop := SpellsOut.seq (Spells.many letter_contains_iff 2) spellsOut_textEnd
  refine (SpellsOut.seq label_spells (SpellsOut.seq labels_spells (htop.char_seq '.'))).congr fun w => ?_
  simp only [mul_one, Language.mem_mul, mem_wordsOf, isDomain_iff]
  constructor
  · rintro ⟨first, hfirst, _, ⟨_, ⟨more, hmore, rfl⟩, _, ⟨top, htop, rfl⟩, rfl⟩, rfl⟩
    exact ⟨first, more, top, hfirst, hmore, htop, by rw [List.append_assoc]⟩
  · rintro ⟨first, more, top, hfirst, hmore, htop, rfl⟩
    exact ⟨first, hfirst, _, ⟨_, ⟨more, hmore, rfl⟩, _, ⟨top, htop, rfl⟩, rfl⟩, by rw [List.append_assoc]⟩

theorem proper_address : address.Proper := by
  simp [Proper, address, Regex.sequence, label, Regex.char, Regex.plus, Regex.star, Regex.opt]

/-- **The email rule accepts the addresses.** -/
theorem accepts_iff (text : String) : accepts text = true ↔ IsAddress text.toList := by
  have hout := SpellsOut.seq (Spells.many localPart_contains_iff 1) (domain_spellsOut.char_seq '@')
  refine (hout.search_iff proper_address.2 text).trans ?_
  simp only [Language.mem_mul, mem_wordsOf, isAddress_iff]
  constructor
  · rintro ⟨before, ⟨hlength, hbefore⟩, _, ⟨after, hafter, rfl⟩, htext⟩
    exact ⟨before, after, ⟨List.length_pos_iff.1 hlength, hbefore⟩, hafter, htext.symm⟩
  · rintro ⟨before, after, ⟨hne, hbefore⟩, hafter, htext⟩
    exact ⟨before, ⟨List.length_pos_iff.2 hne, hbefore⟩, _, ⟨after, hafter, rfl⟩, htext.symm⟩

/-! ## The pattern as it is written -/

/-- The pattern of addresses. -/
def source : String :=
  "^[A-Za-z0-9._%+-]+@" ++ "[A-Za-z0-9](?:[A-Za-z0-9-]*[A-Za-z0-9])?" ++
    "(?:\\.[A-Za-z0-9](?:[A-Za-z0-9-]*[A-Za-z0-9])?)*" ++ "\\.[A-Za-z]\x7b2,\x7d$"

/-- A set as its brackets are read, from the left. -/
def bracket (ranges : List (Char × Char)) : CharSet := ranges.foldl (fun s r => .union s (.range r.1 r.2)) .none

/-- What the pattern reads as: each label in two pieces, not as a thing of its own. -/
def written : Regex :=
  let letters := [('A', 'Z'), ('a', 'z')]
  let edge := .one (bracket (letters ++ [('0', '9')]))
  let more := .opt (.seq (.star (.one (bracket (letters ++ [('0', '9'), ('-', '-')])))) edge)
  .sequence [
    .anchor .textStart,
    .plus (.one (bracket (letters ++ [('0', '9'), ('.', '.'), ('_', '_'), ('%', '%'), ('+', '+'), ('-', '-')]))),
    .char '@',
    edge,
    more,
    .star (.seq (.char '.') (.seq edge more)),
    .char '.',
    .repeated (.one (bracket letters)) 2 none,
    .anchor .textEnd]

set_option maxRecDepth 4000 in
theorem regex_of_source : (Reader.readWritten? source).map Written.regex = some written := by decide +kernel

theorem bracket_contains (ranges : List (Char × Char)) (c : Char) :
    (bracket ranges).contains c = (CharSet.ofRanges ranges).contains c := by
  have hleft : ∀ (ranges : List (Char × Char)) (s : CharSet),
      (ranges.foldl (fun s r => CharSet.union s (.range r.1 r.2)) s).contains c =
        (s.contains c || (CharSet.ofRanges ranges).contains c) := by
    intro ranges
    induction ranges with
    | nil => exact fun s => (Bool.or_false _).symm
    | cons r rest ih => exact fun s => (ih _).trans (Bool.or_assoc ..)
  exact (hleft ranges .none).trans (Bool.false_or _)

theorem written_same : written.Same address := by
  have hedge : Same (.one (bracket [('A', 'Z'), ('a', 'z'), ('0', '9')])) (.one letterOrDigit) :=
    .one (bracket_contains _)
  have hinner : Same (.one (bracket [('A', 'Z'), ('a', 'z'), ('0', '9'), ('-', '-')])) (.one letterDigitOrHyphen) :=
    .one fun c => by
      simp only [bracket_contains, letterDigitOrHyphen, letterOrDigit, CharSet.ofRanges, List.foldr, union_contains,
        CharSet.single, none_contains, Bool.or_false, Bool.or_assoc]
  have hlocal : Same (.one (bracket [('A', 'Z'), ('a', 'z'), ('0', '9'), ('.', '.'), ('_', '_'), ('%', '%'),
      ('+', '+'), ('-', '-')])) (.one localPart) :=
    .one fun c => by
      simp only [bracket_contains, localPart, letterOrDigit, CharSet.ofRanges, List.foldr, union_contains,
        none_contains, Bool.or_false, Bool.or_assoc]
  have hletter : Same (.one (bracket [('A', 'Z'), ('a', 'z')])) (.one letter) := .one (bracket_contains _)
  have hlabel := Same.seq hedge (((Same.repeated hinner 0 none).seq hedge).repeated 0 (some 1))
  have hlabels := ((Same.refl (.char '.')).seq hlabel).repeated 0 none
  have htop := (Same.repeated hletter 2 none).seq (Same.refl (.anchor .textEnd))
  refine (Same.refl _).seq ((Same.repeated hlocal 1 none).seq ((Same.refl _).seq ?_))
  exact (Same.seq_assoc _ _ _).symm.trans (hlabel.seq (hlabels.seq ((Same.refl _).seq htop)))

theorem proper_written : written.Proper := by
  simp [Proper, written, Regex.sequence, Regex.char, Regex.plus, Regex.star, Regex.opt]

/-- **The pattern reads as an expression that finds what the rule accepts.** -/
theorem exists_read_source : ∃ w, Reader.readWritten? source = some w ∧ ∀ text, w.regex.search text = accepts text := by
  obtain ⟨w, hread, hw⟩ := Option.map_eq_some_iff.1 regex_of_source
  exact ⟨w, hread, hw ▸ written_same.search_eq proper_written proper_address⟩

end Email

/-- **What the email rule accepts**: the addresses, as they are, and of any other text it says so. -/
theorem Validator.email_accepts_addresses (s : String) (path : Path) :
    let schema := Validator.string (.ofClauses [.demand TextDemand.email])
    (schema.check (.string s) path = .success (.string s) ↔ Email.IsAddress s.toList) ∧
      (¬ Email.IsAddress s.toList →
        schema.check (.string s) path = .failure (.single ⟨path, .invalidString, "invalid email"⟩)) := by
  intro schema
  let rules : Rules TextRule := ⟨none, [⟨.email, none⟩]⟩
  have hcheck : schema.check (.string s) path = .ready ((rules.firstViolation path s).map .string) := rfl
  have hissue : Rules.issue? path s (⟨.email, none⟩ : Constraint TextRule) =
      if Email.accepts s = true then none else some ⟨path, .invalidString, "invalid email"⟩ := rfl
  rw [hcheck, Rules.firstViolation, Rules.violations, List.filterMap_cons, hissue, ← Email.accepts_iff]
  by_cases h : Email.accepts s = true
  · rw [if_pos h]
    exact ⟨iff_of_true rfl h, fun hn => absurd h hn⟩
  · rw [if_neg h]
    exact ⟨iff_of_false nofun h, fun _ => rfl⟩

/-- A new line behind an address is not left out of sight, nor is a hyphen at the end of a label. -/
example : ["a@b.co", "a@b.co\n", "a@b-.co", "a@b.c"].map (fun s => decide (Email.IsAddress s.toList)) =
    [true, false, false, false] := by decide +kernel

end Schemata
