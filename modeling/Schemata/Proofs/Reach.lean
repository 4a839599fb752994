import Schemata.Proofs.Calls
/-!
# Reach — the schemas that a schema leads to

A schema leads to those inside it and, through a reference, to what is registered under its name, and so on.  Most
laws ask something of every node of a tree and of the registered trees that it leads to; `Registries.Reaches` says
which nodes those are, and a call asks none but these (`Registries.reaches_of_calls`).
-/
namespace Schemata

namespace Registries

/-- **A schema leads to another**: itself, one inside it, or one that a reference in it resolves to. -/
inductive Reaches (rs : Registries) : Schema → Schema → Prop where
  | here (s : Schema) : Reaches rs s s
  | child {s c t : Schema} : c ∈ s.children → Reaches rs c t → Reaches rs s t
  | reference {r : Reference} {s t : Schema} : rs.resolve r = .ok s → Reaches rs s t → Reaches rs (.reference r) t

variable {rs : Registries}

/-- **What is kept inside schemas and behind references is kept everywhere.** -/
theorem Reaches.invariant {P : Schema → Prop} (child : ∀ s c, P s → c ∈ s.children → P c)
    (reference : ∀ r s, P (.reference r) → rs.resolve r = .ok s → P s) {s t : Schema} (h : rs.Reaches s t) (hs : P s) :
    P t := by
  induction h with
  | here => exact hs
  | child hc _ ih => exact ih (child _ _ hs hc)
  | reference hr _ ih => exact ih (reference _ _ hs hr)

/-- **What a call asks leads nowhere that the call does not.** -/
theorem reaches_of_calls {c d : Call} (h : rs.Calls c d) {t : Schema} (ht : rs.Reaches d.schema t) :
    rs.Reaches c.schema t := by
  cases h with
  | reference _ hr => exact .reference hr ht
  | field hf => exact .child (List.mem_map_of_mem hf) ht
  | candidate hs => exact .child hs ht
  | _ => exact .child (List.mem_singleton.2 rfl) ht

end Registries
end Schemata
