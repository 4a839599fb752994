/-!
# Entries — named things, in the order they were first named

An object of a value, the fields of an object schema and the contents of a registry are all lists of names with
something under each.  Writing under a name that is there keeps its place and replaces what is under it; a new name goes
to the end.  So names never repeat in a list built by writing (`nodup_keys_ofList`), and looking up after writing finds
what was written (`get?_insert`).
-/
namespace Schemata

/-- Named things, in order. -/
abbrev Entries (α : Type) := List (String × α)

namespace Entries

variable {α β : Type}

def keys (es : Entries α) : List String := es.map Prod.fst

/-- What stands under a name. -/
def get? : Entries α → String → Option α
  | [], _ => none
  | (k, a) :: rest, key => if k = key then some a else get? rest key

def has (es : Entries α) (key : String) : Bool := (es.get? key).isSome

/-- **Writes under a name**: in its place if the name is there, at the end if not. -/
def insert : Entries α → String → α → Entries α
  | [], key, a => [(key, a)]
  | (k, b) :: rest, key, a => if k = key then (k, a) :: rest else (k, b) :: insert rest key a

def insertAll (es : Entries α) (more : List (String × α)) : Entries α := more.foldl (fun es e => es.insert e.1 e.2) es

/-- The entries of a list in which names may repeat: first place, last content. -/
def ofList (es : List (String × α)) : Entries α := insertAll [] es

/-- The entries whose names pass. -/
def restrict (keep : String → Bool) (es : Entries α) : Entries α := es.filter fun e => keep e.1

def mapValues (f : α → β) (es : Entries α) : Entries β := es.map fun e => (e.1, f e.2)

/-- The entries without a name. -/
def erase (es : Entries α) (key : String) : Entries α := es.restrict (· ≠ key)

/-- Adds to the end of the group under a name, opening the group if there is none. -/
def addTo (es : Entries (List α)) (key : String) (a : α) : Entries (List α) :=
  es.insert key ((es.get? key).getD [] ++ [a])

@[simp] theorem keys_cons (e : String × α) (es : Entries α) : keys (e :: es) = e.1 :: keys es := rfl

theorem get?_eq_none_iff : ∀ (es : Entries α) (key : String), es.get? key = none ↔ key ∉ es.keys
  | [], key => by simp [get?, keys]
  | (k, a) :: rest, key => by
    have ih := get?_eq_none_iff rest key
    by_cases h : k = key
    · simp [get?, h]
    · simp [get?, h, ih, Ne.symm h]

/-- **Looking up after writing.** -/
theorem get?_insert (key : String) (a : α) : ∀ (es : Entries α) (other : String),
    (es.insert key a).get? other = if key = other then some a else es.get? other
  | [], other => by simp [insert, get?]
  | (k, b) :: rest, other => by
    have ih := get?_insert key a rest other
    by_cases h : k = key
    · subst h; by_cases ho : k = other <;> simp [insert, get?, ho]
    · by_cases ho : k = other
      · subst ho; simp [insert, get?, h, Ne.symm h]
      · simp [insert, get?, h, ho, ih]

/-- **Writing keeps the names and their order**, but for a new name at the end. -/
theorem keys_insert (key : String) (a : α) : ∀ (es : Entries α),
    (es.insert key a).keys = if key ∈ es.keys then es.keys else es.keys ++ [key]
  | [] => by simp [insert, keys]
  | (k, b) :: rest => by
    have ih := keys_insert key a rest
    by_cases h : k = key
    · simp [insert, h]
    · by_cases hm : key ∈ keys rest <;> simp [insert, h, ih, hm, Ne.symm h]

theorem nodup_keys_insert {es : Entries α} (h : es.keys.Nodup) (key : String) (a : α) :
    (es.insert key a).keys.Nodup := by
  rw [keys_insert]
  split
  · exact h
  · rename_i hm
    exact List.nodup_append.2 ⟨h, by simp, by rintro x hx y hy rfl; simp_all⟩

theorem nodup_keys_insertAll : ∀ (more : List (String × α)) {es : Entries α}, es.keys.Nodup →
    (es.insertAll more).keys.Nodup
  | [], _, h => h
  | e :: more, _, h => nodup_keys_insertAll more (nodup_keys_insert h e.1 e.2)

/-- **Names never repeat in entries built by writing.** -/
theorem nodup_keys_ofList (es : List (String × α)) : (ofList es).keys.Nodup :=
  nodup_keys_insertAll es List.nodup_nil

end Entries
end Schemata
