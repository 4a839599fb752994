import Mathlib.Data.List.Induction
import Mathlib.Data.List.Perm.Basic
import Schemata.Proofs.PathTexts
import Schemata.Report
/-!
# Flattening — messages under the text of their place

A flattened report has the messages of its issues under the texts of their places.  Groups are opened in the order in
which their names first come up, and each message goes to the end of its group; so a group is what a filter finds
(`Entries.get?_grouped`).  Texts are as good as places where all paths are plain, and then there is one group for each
place, whatever references were followed on the way to it (`Report.flatten_by_place`).
-/
namespace Schemata

namespace Entries

variable {α : Type}

/-- **Things in groups**: each goes to the end of the group under its name. -/
def grouped (l : List (String × α)) : Entries (List α) := l.foldl (fun groups e => groups.addTo e.1 e.2) []

theorem grouped_concat (l : List (String × α)) (e : String × α) :
    grouped (l ++ [e]) = (grouped l).addTo e.1 e.2 := by
  rw [grouped, List.foldl_append]
  rfl

end Entries

/-- What comes last is new, or it has come before. -/
theorem eraseDups_concat {α : Type} [BEq α] [LawfulBEq α] (l : List α) (a : α) :
    (l ++ [a]).eraseDups = if a ∈ l then l.eraseDups else l.eraseDups ++ [a] := by
  rw [List.eraseDups_append]
  by_cases h : a ∈ l <;> simp [List.removeAll, h, List.eraseDups_cons]

/-- Things that a function tells apart come up first where their images do. -/
theorem eraseDups_map_of_inj {α β : Type} [BEq α] [LawfulBEq α] [BEq β] [LawfulBEq β] {f : α → β} (l : List α)
    (h : ∀ a ∈ l, ∀ b ∈ l, f a = f b → a = b) : (l.map f).eraseDups = l.eraseDups.map f := by
  induction l using List.reverseRecOn with
  | nil => rfl
  | append_singleton l a ih =>
    have hl : ∀ b ∈ l, ∀ c ∈ l, f b = f c → b = c := fun b hb c hc =>
      h b (List.mem_append_left _ hb) c (List.mem_append_left _ hc)
    have hmem : f a ∈ l.map f ↔ a ∈ l := by
      refine ⟨fun hfa => ?_, List.mem_map_of_mem⟩
      obtain ⟨b, hb, hfb⟩ := List.mem_map.1 hfa
      rwa [← h b (List.mem_append_left _ hb) a (by simp) hfb]
    rw [List.map_append, List.map_singleton, eraseDups_concat, eraseDups_concat, ih hl]
    by_cases ha : a ∈ l <;> simp [hmem, ha]

namespace Entries

variable {α : Type}

/-- **Groups stand in the order in which their names first come up.** -/
theorem keys_grouped (l : List (String × α)) : (grouped l).keys = (l.map Prod.fst).eraseDups := by
  induction l using List.reverseRecOn with
  | nil => rfl
  | append_singleton l e ih =>
    rw [grouped_concat, addTo, keys_insert, ih, List.map_append, List.map_singleton, eraseDups_concat]
    simp only [List.mem_eraseDups]

theorem nodup_keys_grouped (l : List (String × α)) : (grouped l).keys.Nodup := by
  induction l using List.reverseRecOn with
  | nil => exact List.nodup_nil
  | append_singleton l e ih =>
    rw [grouped_concat]
    exact nodup_keys_insert ih _ _

/-- **A group is what its name finds**, in order; a name that finds nothing has none. -/
theorem get?_grouped (l : List (String × α)) (key : String) :
    (grouped l).get? key =
      if (l.filter fun e => e.1 = key) = [] then none else some ((l.filter fun e => e.1 = key).map Prod.snd) := by
  induction l using List.reverseRecOn with
  | nil => rfl
  | append_singleton l e ih =>
    have hgroup : ((grouped l).get? key).getD [] = (l.filter fun e => e.1 = key).map Prod.snd := by
      rw [ih]
      split
      · rename_i hnone
        rw [hnone]
        rfl
      · rfl
    rw [grouped_concat, addTo, get?_insert, List.filter_append]
    by_cases hkey : e.1 = key
    · rw [if_pos hkey, hkey, hgroup]
      simp [hkey]
    · have hnone : [e].filter (fun e => e.1 = key) = [] := by simp [hkey]
      rw [if_neg hkey, ih, hnone, List.append_nil]

/-- What goes to a group is one thing more in all the groups. -/
theorem flatMap_addTo_perm (key : String) (a : α) : ∀ es : Entries (List α),
    ((es.addTo key a).flatMap Prod.snd).Perm (es.flatMap Prod.snd ++ [a])
  | [] => List.Perm.refl _
  | (k, as) :: rest => by
    by_cases hk : k = key
    · have hgroup : addTo ((k, as) :: rest) key a = (k, as ++ [a]) :: rest := by simp [addTo, insert, get?, hk]
      rw [hgroup, List.flatMap_cons, List.flatMap_cons, List.append_assoc, List.append_assoc]
      exact List.perm_append_comm.append_left as
    · have hgroup : addTo ((k, as) :: rest) key a = (k, as) :: addTo rest key a := by simp [addTo, insert, get?, hk]
      rw [hgroup, List.flatMap_cons, List.flatMap_cons, List.append_assoc]
      exact (flatMap_addTo_perm key a rest).append_left as

/-- **Nothing is lost in groups and nothing is in two of them.** -/
theorem flatMap_grouped_perm (l : List (String × α)) : ((grouped l).flatMap Prod.snd).Perm (l.map Prod.snd) := by
  induction l using List.reverseRecOn with
  | nil => exact List.Perm.refl _
  | append_singleton l e ih =>
    rw [grouped_concat, List.map_append]
    exact (flatMap_addTo_perm e.1 e.2 _).trans (ih.append_right _)

end Entries

namespace Report

theorem flatten_eq_grouped (r : Report) :
    r.flatten = Entries.grouped (r.issues.map fun i => (i.path.text, i.message)) := by
  rw [Entries.grouped, List.foldl_map]
  rfl

/-- **Messages stand under their places.**  Plain paths have one text exactly if they lead to one place, and all paths
have one document exactly then.  So if the issues of a report have plain paths, its messages are grouped by place,
whatever references their paths count.  There is one group for each place, in the order in which the places first come
up; under the text of a plain path stand, in order, the messages of the issues at its place, if there are any; and every
message is in one group, once. -/
theorem flatten_by_place :
    (∀ p q : Path, p.Plain → q.Plain → (p.text = q.text ↔ p.SamePlace q)) ∧
    (∀ p q : Path, p.toJson = q.toJson ↔ p.SamePlace q) ∧
    ∀ r : Report, (∀ i ∈ r.issues, i.path.Plain) →
      r.flatten.keys = (r.issues.map fun i => i.path.segments).eraseDups.map (Path.renderSegments true) ∧
      r.flatten.keys.Nodup ∧
      (∀ p : Path, p.Plain → r.flatten.get? p.text =
        if r.atPath p = [] then none else some ((r.atPath p).map Issue.message)) ∧
      (r.flatten.flatMap Prod.snd).Perm (r.issues.map Issue.message) := by
  refine ⟨fun p q => Path.text_eq_iff, Path.toJson_eq_iff, fun r hplain => ?_⟩
  rw [flatten_eq_grouped]
  refine ⟨?_, Entries.nodup_keys_grouped _, fun p hp => ?_, ?_⟩
  · rw [Entries.keys_grouped, List.map_map, ← eraseDups_map_of_inj, List.map_map]
    · rfl
    · intro s hs t ht h
      obtain ⟨i, hi, rfl⟩ := List.mem_map.1 hs
      obtain ⟨j, hj, rfl⟩ := List.mem_map.1 ht
      exact Path.renderSegments_inj true (hplain i hi) (hplain j hj) h
  · have hfound : (r.issues.map fun i => (i.path.text, i.message)).filter (fun e => e.1 = p.text) =
        (r.atPath p).map fun i => (i.path.text, i.message) := by
      rw [List.filter_map, atPath]
      refine congrArg _ (List.filter_congr fun i hi => ?_)
      exact decide_eq_decide.2 (Path.text_eq_iff (hplain i hi) hp)
    rw [Entries.get?_grouped, hfound, List.map_map]
    simp only [List.map_eq_nil_iff]
    rfl
  · refine (Entries.flatMap_grouped_perm _).trans ?_
    rw [List.map_map]
    rfl

/-- Two issues stand at one place, though a reference was followed to one of them only, and one at the root between. -/
theorem flatten_of_two_places :
    let item : Path := Path.root.field "words" |>.index 0
    let r : Report := ⟨[.custom item "too short", .custom .root "too few", .custom item.followed "no name"]⟩
    (∀ i ∈ r.issues, i.path.Plain) ∧ r.flatten.keys = ["words[0]", ""] ∧
      r.flatten.get? item.text = some ["too short", "no name"] := by
  intro item r
  have hplain : ∀ i ∈ r.issues, i.path.Plain := by decide +kernel
  obtain ⟨hkeys, -, hgroups, -⟩ := flatten_by_place.2.2 r hplain
  exact ⟨hplain, hkeys.trans (by decide +kernel), hgroups item (by decide +kernel)⟩

end Report
end Schemata
