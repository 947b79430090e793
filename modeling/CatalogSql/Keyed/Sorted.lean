import CatalogSql.Keyed.Entries

/-!
# Sorted maps

A sorted map holds each key once, in ascending order of the keys. Keys are compared
character by character, which for text in its usual encoding is the order of the
encoded bytes.
-/

namespace CatalogSql

namespace Keyed

variable {α : Type}

/-- Sets the value under a key of entries in ascending order. -/
def putSorted (key : String) (value : α) : List (String × α) → List (String × α)
  | [] => [(key, value)]
  | (candidate, old) :: rest =>
      if key < candidate then (key, value) :: (candidate, old) :: rest
      else if candidate = key then (key, value) :: rest
      else (candidate, old) :: putSorted key value rest

theorem mem_keys_putSorted (key : String) (value : α) (entries : List (String × α))
    (other : String) :
    other ∈ keys (putSorted key value entries) ↔ other = key ∨ other ∈ keys entries := by
  induction entries with
  | nil => simp [putSorted]
  | cons entry rest ih => grind [putSorted, keys]

/-- Ascending keys stay ascending. -/
theorem ascending_putSorted (key : String) (value : α) {entries : List (String × α)}
    (ascending : (keys entries).Pairwise (· < ·)) :
    (keys (putSorted key value entries)).Pairwise (· < ·) := by
  induction entries with
  | nil => simp [putSorted]
  | cons entry rest ih =>
      obtain ⟨candidate, old⟩ := entry
      simp only [keys_cons, List.pairwise_cons] at ascending
      simp only [putSorted]
      split
      · rename_i before
        simp only [keys_cons, List.pairwise_cons]
        refine ⟨?_, ascending.1, ascending.2⟩
        intro other mem
        rcases List.mem_cons.mp mem with rfl | inRest
        · exact before
        · exact String.lt_trans before (ascending.1 other inRest)
      · split
        · rename_i same
          subst same
          simpa only [keys_cons, List.pairwise_cons] using ascending
        · rename_i notBefore differs
          simp only [keys_cons, List.pairwise_cons]
          refine ⟨?_, ih ascending.2⟩
          intro other mem
          rcases (mem_keys_putSorted key value rest other).mp mem with rfl | inRest
          · grind
          · exact ascending.1 other inRest

/-- A key that was put has the new value, and the others keep theirs. -/
theorem lookup?_putSorted (key : String) (value : α) {entries : List (String × α)}
    (ascending : (keys entries).Pairwise (· < ·)) (other : String) :
    lookup? other (putSorted key value entries) =
      if other = key then some value else lookup? other entries := by
  induction entries with
  | nil => grind [putSorted, lookup?]
  | cons entry rest ih =>
      obtain ⟨candidate, old⟩ := entry
      simp only [keys_cons, List.pairwise_cons] at ascending
      have onRest := ih ascending.2
      grind [putSorted, lookup?]

end Keyed

/-- Values under distinct keys, in ascending order of the keys. -/
structure SortedMap (α : Type) where
  entries : List (String × α)
  ascending : (Keyed.keys entries).Pairwise (· < ·)
deriving DecidableEq

namespace SortedMap

variable {α β : Type}

@[ext] theorem ext {left right : SortedMap α} (entries : left.entries = right.entries) :
    left = right := by
  cases left
  cases right
  cases entries
  rfl

/-- The map without keys. -/
def empty : SortedMap α := ⟨[], List.Pairwise.nil⟩

instance : Inhabited (SortedMap α) := ⟨empty⟩

/-- Sets a key, replacing the value the map holds under it. -/
def insert (map : SortedMap α) (key : String) (value : α) : SortedMap α :=
  ⟨Keyed.putSorted key value map.entries, Keyed.ascending_putSorted key value map.ascending⟩

/-- The map of entries given one after another. -/
def ofList (entries : List (String × α)) : SortedMap α :=
  entries.foldl (fun map entry => map.insert entry.1 entry.2) empty

/-- The value under a key. -/
def get? (map : SortedMap α) (key : String) : Option α := Keyed.lookup? key map.entries

/-- Whether the map holds a key. -/
def contains (map : SortedMap α) (key : String) : Bool := (map.get? key).isSome

/-- The keys in ascending order. -/
def keys (map : SortedMap α) : List String := Keyed.keys map.entries

/-- The values in ascending order of their keys. -/
def values (map : SortedMap α) : List α := map.entries.map (·.2)

/-- The number of keys. -/
def size (map : SortedMap α) : Nat := map.entries.length

/-- Whether the map holds no key. -/
def isEmpty (map : SortedMap α) : Bool := map.entries.isEmpty

@[simp] theorem entries_empty : (empty : SortedMap α).entries = [] := rfl

@[simp] theorem entries_insert (map : SortedMap α) (key : String) (value : α) :
    (map.insert key value).entries = Keyed.putSorted key value map.entries := rfl

/-- An inserted key has the new value, and the others keep theirs. -/
theorem get?_insert (map : SortedMap α) (key : String) (value : α) (other : String) :
    (map.insert key value).get? other = if other = key then some value else map.get? other :=
  Keyed.lookup?_putSorted key value map.ascending other

end SortedMap

end CatalogSql
