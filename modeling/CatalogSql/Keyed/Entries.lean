/-!
# Keyed entries

Lists of entries under text keys, as far as they hold each key at most once or
not: looking a key up and replacing its value in place. The two kinds of map are
built from these.
-/

namespace CatalogSql.Keyed

variable {α : Type}

/-- The keys of entries, in order. -/
def keys (entries : List (String × α)) : List String := entries.map (·.1)

/-- The value of the first entry under a key. -/
def lookup? (key : String) : List (String × α) → Option α
  | [] => none
  | (candidate, value) :: rest => if candidate = key then some value else lookup? key rest

/-- Sets the value under a key: in the place of the entry that holds the key, and
at the end when no entry does. -/
def put (key : String) (value : α) : List (String × α) → List (String × α)
  | [] => [(key, value)]
  | (candidate, old) :: rest =>
      if candidate = key then (candidate, value) :: rest
      else (candidate, old) :: put key value rest

@[simp] theorem keys_nil : keys ([] : List (String × α)) = [] := rfl

@[simp] theorem keys_cons (entry : String × α) (rest : List (String × α)) :
    keys (entry :: rest) = entry.1 :: keys rest := rfl

/-- A new key goes to the end, and a held one stays where it is. -/
theorem keys_put (key : String) (value : α) (entries : List (String × α)) :
    keys (put key value entries) =
      if key ∈ keys entries then keys entries else keys entries ++ [key] := by
  induction entries with
  | nil => simp [put]
  | cons entry rest ih =>
      by_cases same : entry.1 = key
      · simp [put, same]
      · have other : ¬ key = entry.1 := fun equal => same equal.symm
        by_cases inRest : key ∈ keys rest <;> simp [put, same, other, ih, inRest]

/-- Distinct keys stay distinct. -/
theorem nodup_keys_put (key : String) (value : α) {entries : List (String × α)}
    (distinct : (keys entries).Nodup) : (keys (put key value entries)).Nodup := by
  rw [keys_put]
  by_cases held : key ∈ keys entries
  · simpa [held] using distinct
  · simp only [held, if_false]
    rw [List.nodup_append]
    refine ⟨distinct, by simp, ?_⟩
    intro left leftMem right rightMem equal
    simp only [List.mem_singleton] at rightMem
    exact held (rightMem ▸ equal ▸ leftMem)

theorem put_of_not_mem {key : String} {entries : List (String × α)} (absent : key ∉ keys entries)
    (value : α) : put key value entries = entries ++ [(key, value)] := by
  induction entries with
  | nil => rfl
  | cons entry rest ih =>
      rw [keys_cons, List.mem_cons, not_or] at absent
      rw [put, if_neg fun same => absent.1 same.symm, ih absent.2, List.cons_append]

/-- A key that was put has the new value, and the others keep theirs. -/
theorem lookup?_put (key : String) (value : α) (entries : List (String × α)) (other : String) :
    lookup? other (put key value entries) =
      if other = key then some value else lookup? other entries := by
  induction entries with
  | nil =>
      by_cases same : other = key
      · simp [put, lookup?, same]
      · have : ¬ key = other := fun equal => same equal.symm
        simp [put, lookup?, same, this]
  | cons entry rest ih => grind [put, lookup?]

/-- Nothing is found exactly where the key is missing. -/
theorem lookup?_eq_none_iff (key : String) (entries : List (String × α)) :
    lookup? key entries = none ↔ key ∉ keys entries := by
  induction entries with
  | nil => simp [lookup?]
  | cons entry rest ih => grind [lookup?, keys]

end CatalogSql.Keyed
