import CatalogSql.Keyed.Entries

/-!
# Ordered maps

An ordered map holds each key once, in the order the keys were first given. Setting
a key again replaces its value and keeps its place.
-/

namespace CatalogSql

/-- Values under distinct keys, in the order the keys were first given. -/
structure OrderedMap (α : Type) where
  entries : List (String × α)
  distinct : (Keyed.keys entries).Nodup
deriving DecidableEq

namespace OrderedMap

variable {α β : Type}

@[ext] theorem ext {left right : OrderedMap α} (entries : left.entries = right.entries) :
    left = right := by
  cases left
  cases right
  cases entries
  rfl

/-- The map without keys. -/
def empty : OrderedMap α := ⟨[], List.nodup_nil⟩

instance : Inhabited (OrderedMap α) := ⟨empty⟩

/-- Sets a key, in its place if the map holds it and at the end otherwise. -/
def insert (map : OrderedMap α) (key : String) (value : α) : OrderedMap α :=
  ⟨Keyed.put key value map.entries, Keyed.nodup_keys_put key value map.distinct⟩

/-- The map of entries given one after another. -/
def ofList (entries : List (String × α)) : OrderedMap α :=
  entries.foldl (fun map entry => map.insert entry.1 entry.2) empty

/-- The value under a key. -/
def get? (map : OrderedMap α) (key : String) : Option α := Keyed.lookup? key map.entries

/-- Whether the map holds a key. -/
def contains (map : OrderedMap α) (key : String) : Bool := (map.get? key).isSome

/-- The keys in order. -/
def keys (map : OrderedMap α) : List String := Keyed.keys map.entries

/-- The number of keys. -/
def size (map : OrderedMap α) : Nat := map.entries.length

/-- Whether the map holds no key. -/
def isEmpty (map : OrderedMap α) : Bool := map.entries.isEmpty

@[simp] theorem entries_empty : (empty : OrderedMap α).entries = [] := rfl

@[simp] theorem entries_insert (map : OrderedMap α) (key : String) (value : α) :
    (map.insert key value).entries = Keyed.put key value map.entries := rfl

/-- Entries given under distinct keys are the entries of their map. -/
theorem entries_ofList {given : List (String × α)} (distinct : (Keyed.keys given).Nodup) :
    (ofList given).entries = given := by
  suffices grown : ∀ map : OrderedMap α,
      (∀ held ∈ Keyed.keys map.entries, held ∉ Keyed.keys given) →
      (given.foldl (fun map entry => map.insert entry.1 entry.2) map).entries =
        map.entries ++ given from
    grown .empty (List.forall_mem_nil _)
  induction given with
  | nil => exact fun map _ => (List.append_nil _).symm
  | cons entry rest ih =>
      intro map apart
      rw [Keyed.keys_cons, List.nodup_cons] at distinct
      have absent : entry.1 ∉ Keyed.keys map.entries :=
        fun mem => apart entry.1 mem List.mem_cons_self
      have atEnd := Keyed.put_of_not_mem absent entry.2
      rw [List.foldl_cons, ih distinct.2, entries_insert, atEnd, List.append_assoc,
        List.singleton_append]
      rw [entries_insert, atEnd]
      intro held mem
      rw [Keyed.keys, List.map_append, List.mem_append] at mem
      rcases mem with before | isEntry
      · exact fun inRest => apart held before (List.mem_cons_of_mem _ inRest)
      · rw [List.mem_singleton.mp isEntry]
        exact distinct.1

/-- A map is the map of its own entries. -/
theorem ofList_entries (map : OrderedMap α) : ofList map.entries = map :=
  ext (entries_ofList map.distinct)

end OrderedMap

end CatalogSql
