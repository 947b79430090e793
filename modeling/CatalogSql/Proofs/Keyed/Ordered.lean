import CatalogSql.Proofs.Keyed.Sorted
import CatalogSql.Keyed.Ordered

/-!
# Entries set one after another

Setting entries leaves the keys that were held in their places, in front of the new ones in
the order in which they were first given; under each key stands the value given last for it, or
the one held before when none is given.
-/

namespace CatalogSql.Keyed

variable {α β : Type}

/-- Filtering entries by their keys filters the keys. -/
theorem keys_filter (entries : List (String × α)) (keeps : String → Bool) :
    keys (entries.filter fun entry => keeps entry.1) = (keys entries).filter keeps :=
  List.filter_map.symm

/-- The entries after others have been set one after another. -/
def putAll (given held : List (String × α)) : List (String × α) :=
  given.foldl (fun held entry => put entry.1 entry.2 held) held

/-- Keys that are held keep their places, and the others follow in the order in which they were
first given. -/
theorem keys_putAll_eraseDups (given held : List (String × α)) :
    keys (putAll given held) =
      keys held ++ ((keys given).filter (· ∉ keys held)).eraseDups := by
  induction given generalizing held with
  | nil => exact (List.append_nil _).symm
  | cons entry rest ih =>
      have others : putAll (entry :: rest) held = putAll rest (put entry.1 entry.2 held) := rfl
      rw [others, ih, keys_put, keys_cons]
      by_cases isHeld : entry.1 ∈ keys held
      · rw [if_pos isHeld, List.filter_cons_of_neg (by simpa using isHeld)]
      · have apart : (keys rest).filter (· ∉ keys held ++ [entry.1]) =
            ((keys rest).filter (· ∉ keys held)).filter fun key => !key == entry.1 := by
          rw [List.filter_filter]
          refine List.filter_congr fun key _ => ?_
          by_cases same : key = entry.1 <;> simp [same]
        rw [if_neg isHeld, List.filter_cons_of_pos (by simpa using isHeld), List.eraseDups_cons,
          List.append_assoc, List.singleton_append, apart]

/-- Distinct names stay as they are. -/
theorem eraseDups_of_nodup {names : List String} (distinct : names.Nodup) :
    names.eraseDups = names := by
  induction names with
  | nil => rfl
  | cons name rest ih =>
      rw [List.nodup_cons] at distinct
      have others : (rest.filter fun other => !other == name) = rest := by
        refine List.filter_eq_self.mpr fun other mem => ?_
        have differs : other ≠ name := fun same => distinct.1 (same ▸ mem)
        simpa using differs
      rw [List.eraseDups_cons, others, ih distinct.2]

/-- New keys are put behind the held ones, in the order they are given. -/
theorem keys_putAll {given : List (String × α)} (distinct : (keys given).Nodup)
    (held : List (String × α)) :
    keys (putAll given held) = keys held ++ (keys given).filter (· ∉ keys held) := by
  rw [keys_putAll_eraseDups, eraseDups_of_nodup (distinct.filter _)]

/-- The keys after putting are the held and the given ones. -/
theorem mem_keys_putAll_iff {given : List (String × α)} (distinct : (keys given).Nodup)
    (held : List (String × α)) (key : String) :
    key ∈ keys (putAll given held) ↔ key ∈ keys held ∨ key ∈ keys given := by
  rw [keys_putAll distinct, List.mem_append, List.mem_filter, decide_eq_true_eq]
  by_cases isHeld : key ∈ keys held <;> simp [isHeld]

/-- After putting, a key has the value given last, or else the held one. -/
theorem lookup?_putAll_lastGiven (given held : List (String × α)) (key : String) :
    lookup? key (putAll given held) = (lastGiven given key).or (lookup? key held) := by
  induction given generalizing held with
  | nil => rfl
  | cons entry rest ih =>
      have others : putAll (entry :: rest) held = putAll rest (put entry.1 entry.2 held) := rfl
      rw [others, ih, lookup?_put, lastGiven_cons, Option.or_assoc]
      by_cases same : entry.1 = key
      · rw [if_pos same.symm, if_pos same, Option.some_or]
      · rw [if_neg fun equal => same equal.symm, if_neg same, Option.none_or]

/-- After putting distinct keys, a key has the given value, or else the held one. -/
theorem lookup?_putAll {given : List (String × α)} (distinct : (keys given).Nodup)
    (held : List (String × α)) (key : String) :
    lookup? key (putAll given held) = (lookup? key given).or (lookup? key held) := by
  rw [lookup?_putAll_lastGiven, lastGiven_of_nodup distinct]

/-- What is set is held, when every key is set once. -/
theorem mem_putAll {given : List (String × α)} (distinct : (keys given).Nodup)
    {entry : String × α} (mem : entry ∈ given) (held : List (String × α)) :
    entry ∈ putAll given held := by
  refine mem_of_lookup? ?_
  rw [lookup?_putAll distinct, (lookup?_eq_some_iff distinct _ _).mpr mem, Option.some_or]

/-- Inserting one by one puts all. -/
theorem entries_foldl_insert (given : List (String × α)) (map : OrderedMap α) :
    (given.foldl (fun map entry => map.insert entry.1 entry.2) map).entries =
      putAll given map.entries := by
  induction given generalizing map with
  | nil => rfl
  | cons entry rest ih => exact ih (map.insert entry.1 entry.2)

/-- The map of entries given one after another holds what setting them leaves. -/
theorem entries_ofList (given : List (String × α)) :
    (OrderedMap.ofList given).entries = putAll given [] :=
  entries_foldl_insert given .empty

/-- Nothing but what is set is held after setting entries from the start. -/
theorem putAll_nil {given : List (String × α)} (distinct : (keys given).Nodup) :
    putAll given [] = given :=
  (entries_ofList given).symm.trans (OrderedMap.entries_ofList distinct)

/-- Putting leaves every key once. -/
theorem nodup_keys_putAll_nil (given : List (String × α)) : (keys (putAll given [])).Nodup :=
  entries_ofList given ▸ (OrderedMap.ofList given).distinct

/-- Setting entries from the start keeps what was given last under each key. -/
theorem lastGiven_putAll_nil (given : List (String × α)) (key : String) :
    lastGiven (putAll given []) key = lastGiven given key := by
  rw [lastGiven_of_nodup (nodup_keys_putAll_nil given), lookup?_putAll_lastGiven, lookup?,
    Option.or_none]

/-- Changing values and setting them may be done in either order. -/
theorem put_map (change : α → β) (key : String) (value : α) (held : List (String × α)) :
    put key (change value) (held.map fun entry => (entry.1, change entry.2)) =
      (put key value held).map fun entry => (entry.1, change entry.2) := by
  induction held with
  | nil => rfl
  | cons entry rest ih =>
      obtain ⟨candidate, old⟩ := entry
      simp only [List.map_cons, put]
      split
      · rfl
      · rw [ih, List.map_cons]

/-- Putting changed values changes what is put. -/
theorem putAll_map (change : α → β) (given held : List (String × α)) :
    putAll (given.map fun entry => (entry.1, change entry.2))
        (held.map fun entry => (entry.1, change entry.2)) =
      (putAll given held).map fun entry => (entry.1, change entry.2) := by
  induction given generalizing held with
  | nil => rfl
  | cons entry rest ih =>
      refine Eq.trans ?_ (ih (put entry.1 entry.2 held))
      rw [← put_map]
      rfl

end CatalogSql.Keyed
