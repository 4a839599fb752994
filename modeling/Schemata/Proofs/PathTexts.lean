import Schemata.Path
/-!
# PathTexts — a place can be read off its text

The text of a path runs its segments together: positions stand in brackets, and a point stands before every name but a
first one.  A name that is empty, or has a point or an opening bracket in it, can be taken for something else.  Where
there is none of these, every segment ends where the next mark stands, and different places have different texts
(`Path.text_eq_iff`).  A document keeps names and positions apart, so there all places differ (`Path.toJson_eq_iff`).
-/
namespace Schemata

/-- Of two texts that are one up to a first mark, the parts before it are the same and the parts from it on. -/
theorem append_inj_of_mark (mark : Char → Prop) {before before' after after' : List Char}
    (hbefore : ∀ c ∈ before, ¬ mark c) (hbefore' : ∀ c ∈ before', ¬ mark c) (hafter : ∀ c ∈ after.head?, mark c)
    (hafter' : ∀ c ∈ after'.head?, mark c) (h : before ++ after = before' ++ after') :
    before = before' ∧ after = after' := by
  rcases List.append_eq_append_iff.1 h with ⟨l, rfl, rfl⟩ | ⟨l, rfl, rfl⟩
  · cases l with
    | nil => simp
    | cons c l => exact absurd (hafter c rfl) (hbefore' c (by simp))
  · cases l with
    | nil => simp
    | cons c l => exact absurd (hafter' c rfl) (hbefore c (by simp))

namespace Segment

/-- A position, or a name that holds no mark: it is not empty, and has no point and no opening bracket in it. -/
def Plain : Segment → Prop
  | .field name => name ≠ "" ∧ '.' ∉ name.toList ∧ '[' ∉ name.toList
  | .index _ => True

instance : DecidablePred Plain
  | .field name => inferInstanceAs (Decidable (name ≠ "" ∧ '.' ∉ name.toList ∧ '[' ∉ name.toList))
  | .index _ => .isTrue trivial

/-- The characters of a segment in the text of a path. -/
def render (first : Bool) : Segment → List Char
  | .field name => if first then name.toList else '.' :: name.toList
  | .index position => '[' :: ((Nat.repr position).toList ++ [']'])

/-- What every segment but a first name begins with. -/
def IsMark (c : Char) : Prop := c = '.' ∨ c = '['

theorem render_ne_nil {s : Segment} (h : s.Plain) (first : Bool) : s.render first ≠ [] := by
  cases s with
  | field name =>
    have hname : name.toList ≠ [] := fun hnil => h.1 (String.toList_inj.1 hnil)
    cases first <;> simp [render, hname]
  | index position => exact List.cons_ne_nil _ _

theorem isMark_head?_render {s : Segment} : ∀ c ∈ (s.render false).head?, IsMark c := by
  cases s with
  | field name => rintro c ⟨⟩; exact .inl rfl
  | index position => rintro c ⟨⟩; exact .inr rfl

/-- The digits of a position end where the bracket is closed. -/
theorem render_index_inj {m n : Nat} {first : Bool} {after after' : List Char}
    (h : (index m).render first ++ after = (index n).render first ++ after') : m = n ∧ after = after' := by
  have hfree : ∀ k : Nat, ∀ c ∈ Nat.toDigits 10 k, ¬ c = ']' := by
    rintro k c hc rfl
    have hdigit := Nat.isDigit_of_mem_toDigits (b := 10) (by decide) (by decide) hc
    cases hdigit
  have hbody : Nat.toDigits 10 m ++ (']' :: after) = Nat.toDigits 10 n ++ (']' :: after') := by
    simpa [render, Nat.toList_repr] using h
  obtain ⟨hdigits, hafter⟩ := append_inj_of_mark (· = ']') (hfree m) (hfree n)
    (by rintro c ⟨⟩; rfl) (by rintro c ⟨⟩; rfl) hbody
  refine ⟨?_, (List.cons.inj hafter).2⟩
  rw [← Nat.ofDigitChars_ten_toDigits (n := m), hdigits, Nat.ofDigitChars_ten_toDigits]

/-- A name ends where the next segment begins. -/
theorem render_field_inj {name name' : String} (hname : (field name).Plain) (hname' : (field name').Plain)
    {first : Bool} {after after' : List Char} (hafter : ∀ c ∈ after.head?, IsMark c)
    (hafter' : ∀ c ∈ after'.head?, IsMark c)
    (h : (field name).render first ++ after = (field name').render first ++ after') :
    name = name' ∧ after = after' := by
  have hfree : ∀ n : String, (field n).Plain → ∀ c ∈ n.toList, ¬ IsMark c := by
    rintro n ⟨-, hpoint, hbracket⟩ c hc (rfl | rfl)
    · exact hpoint hc
    · exact hbracket hc
  have hbody : name.toList ++ after = name'.toList ++ after' := by
    cases first <;> simpa [render] using h
  obtain ⟨hlist, hrest⟩ := append_inj_of_mark IsMark (hfree name hname) (hfree name' hname') hafter hafter' hbody
  exact ⟨String.toList_inj.1 hlist, hrest⟩

/-- A plain name does not begin as a position does. -/
theorem render_field_ne_index {name : String} (h : (field name).Plain) (position : Nat) (first : Bool)
    (after after' : List Char) : (field name).render first ++ after ≠ (index position).render first ++ after' := by
  obtain ⟨hne, -, hbracket⟩ := h
  cases first with
  | false => simp [render]
  | true =>
    cases hname : name.toList with
    | nil => exact absurd (String.toList_inj.1 hname) hne
    | cons c rest =>
      rw [hname] at hbracket
      have hc : c ≠ '[' := fun h => hbracket (h ▸ List.mem_cons_self)
      simp [render, hname, hc]

/-- **Segments that are plain are told apart at the beginning of a text.** -/
theorem render_inj {s t : Segment} (hs : s.Plain) (ht : t.Plain) {first : Bool} {after after' : List Char}
    (hafter : ∀ c ∈ after.head?, IsMark c) (hafter' : ∀ c ∈ after'.head?, IsMark c)
    (h : s.render first ++ after = t.render first ++ after') : s = t ∧ after = after' := by
  cases s with
  | field name =>
    cases t with
    | field name' => exact (render_field_inj hs ht hafter hafter' h).imp_left (congrArg field)
    | index n => exact absurd h (render_field_ne_index hs n first _ _)
  | index m =>
    cases t with
    | field name' => exact absurd h.symm (render_field_ne_index ht m first _ _)
    | index n => exact (render_index_inj h).imp_left (congrArg index)

theorem toJson_inj : ∀ {s t : Segment}, s.toJson = t.toJson → s = t
  | .field _, .field _, h => congrArg _ (Json.string.inj h)
  | .index _, .index _, h => congrArg _ (Int.ofNat.inj (Json.int.inj h))

end Segment

namespace Path

/-- A path whose names hold no marks. -/
def Plain (p : Path) : Prop := ∀ s ∈ p.segments, s.Plain

instance : DecidablePred Plain := fun p => inferInstanceAs (Decidable (∀ s ∈ p.segments, s.Plain))

theorem toList_renderSegments_cons (first : Bool) (s : Segment) (rest : List Segment) :
    (renderSegments first (s :: rest)).toList = s.render first ++ (renderSegments false rest).toList := by
  cases s with
  | field name => cases first <;> simp [renderSegments, Segment.render, String.toList_append]
  | index position => simp [renderSegments, Segment.render, String.toList_append]

theorem isMark_head?_renderSegments (segments : List Segment) :
    ∀ c ∈ (renderSegments false segments).toList.head?, Segment.IsMark c := by
  cases segments with
  | nil => exact nofun
  | cons s rest =>
    intro c hc
    rw [toList_renderSegments_cons, List.head?_append] at hc
    cases hhead : (s.render false).head? with
    | none => cases s <;> cases hhead
    | some d =>
      rw [hhead] at hc
      obtain rfl := Option.some.inj hc
      exact Segment.isMark_head?_render d hhead

theorem renderSegments_cons_ne_empty (first : Bool) {s : Segment} (h : s.Plain) (rest : List Segment) :
    renderSegments first (s :: rest) ≠ "" := fun hempty => by
  have hlist := congrArg String.toList hempty
  rw [toList_renderSegments_cons] at hlist
  exact Segment.render_ne_nil h first (List.append_eq_nil_iff.1 hlist).1

/-- **Plain segments can be read off their text**, one after the other. -/
theorem renderSegments_inj : ∀ {s t : List Segment} (first : Bool), (∀ x ∈ s, x.Plain) → (∀ x ∈ t, x.Plain) →
    renderSegments first s = renderSegments first t → s = t
  | [], [], _, _, _, _ => rfl
  | [], y :: t, first, _, ht, h => absurd h.symm (renderSegments_cons_ne_empty first (ht y List.mem_cons_self) t)
  | x :: s, [], first, hs, _, h => absurd h (renderSegments_cons_ne_empty first (hs x List.mem_cons_self) s)
  | x :: s, y :: t, first, hs, ht, h => by
    have hlist := congrArg String.toList h
    rw [toList_renderSegments_cons, toList_renderSegments_cons] at hlist
    obtain ⟨rfl, hrest⟩ := Segment.render_inj (hs x List.mem_cons_self) (ht y List.mem_cons_self)
      (isMark_head?_renderSegments s) (isMark_head?_renderSegments t) hlist
    have ih := renderSegments_inj false (fun z hz => hs z (List.mem_cons_of_mem _ hz))
      (fun z hz => ht z (List.mem_cons_of_mem _ hz)) (String.toList_inj.1 hrest)
    rw [ih]

/-- **Plain paths of one text lead to one place**, and to one place only these. -/
theorem text_eq_iff {p q : Path} (hp : p.Plain) (hq : q.Plain) : p.text = q.text ↔ p.SamePlace q :=
  ⟨renderSegments_inj true hp hq, congrArg (renderSegments true)⟩

/-- **In a document every path keeps its place**, whatever names are on it. -/
theorem toJson_eq_iff (p q : Path) : p.toJson = q.toJson ↔ p.SamePlace q := by
  rw [toJson, toJson, Json.array.injEq]
  exact List.map_inj_right fun _ _ => Segment.toJson_inj

end Path
end Schemata
