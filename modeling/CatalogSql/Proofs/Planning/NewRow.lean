import CatalogSql.Proofs.Planning.Preparation

/-!
# What a new row holds

A new row is made from three sources: the identifier and the times that a table keeps of its
rows, the payload of the caller, and an explicit identifier, each of which goes before the one
in front of it.
-/

namespace CatalogSql

namespace Payload

variable {table : TypeInfo} {payload prepared row : Payload} {explicitId : Option String}
  {freshId now : String}

/-- The times a table keeps of its rows. -/
def timeFields (table : TypeInfo) : List String :=
  [createdField, updatedField].filter fun field => (table.fieldType? field).isSome

/-- The fields that a payload sets, in its order. -/
def setFields (payload : Payload) : List String :=
  payload.entries.entries.filterMap fun entry =>
    match entry.2 with
    | .value _ => some entry.1
    | .unset => none

/-- The values of a payload belong to the fields it sets. -/
theorem keys_values (payload : Payload) : Keyed.keys payload.values = payload.setFields := by
  rw [Keyed.keys, values, setFields, List.map_filterMap]
  refine List.filterMap_congr fun entry _ => ?_
  cases entry.2 <;> rfl

/-- The fields of a new row of a table with identifiers: those the table keeps of every row, and
then those the payload sets besides. -/
def insertedFields (payload : Payload) (table : TypeInfo) : List String :=
  let kept := idField :: timeFields table
  kept ++ payload.setFields.filter (· ∉ kept)

/-- The value of a field of a new row. An explicit identifier goes before one in the payload,
and what the payload sets goes before a fresh identifier and the current time. -/
inductive Fills (table : TypeInfo) (payload : Payload) (explicitId : Option String)
    (freshId now : String) : String → Json → Prop where
  | explicitId {id : String} (given : explicitId = some id) :
      Fills table payload explicitId freshId now idField (.string id)
  | set {field : String} {value stored : Json} (notExplicit : field = idField → explicitId = none)
      (isSet : payload.get? field = some (.value value))
      (truncates : Truncates table field value stored) :
      Fills table payload explicitId freshId now field stored
  | freshId (notExplicit : explicitId = none)
      (unset : ∀ value, payload.get? idField ≠ some (.value value)) :
      Fills table payload explicitId freshId now idField (.string freshId)
  | now {field : String} (isTime : field = createdField ∨ field = updatedField)
      (unset : ∀ value, payload.get? field ≠ some (.value value)) :
      Fills table payload explicitId freshId now field (.string now)

/-! ## The row -/

/-- What a table keeps of a new row before the caller's values: an identifier and the times. -/
def keptValues (table : TypeInfo) (id now : String) : List (String × Json) :=
  [(idField, .string id), (createdField, .string now), (updatedField, .string now)].filter
    fun entry => (table.fieldType? entry.1).isSome

/-- The values of a caller that are set over the kept ones. -/
def givenValues (prepared : Payload) (explicitId : Option String) : List (String × Json) :=
  prepared.values.filter fun entry => !(entry.1 == idField && explicitId.isSome)

/-- The program keeps the id and the time fields of a table that declares an id. -/
theorem keys_keptValues (declaresId : (table.fieldType? idField).isSome) (id now : String) :
    Keyed.keys (keptValues table id now) = idField :: timeFields table := by
  rw [keptValues, Keyed.keys_filter _ fun field => (table.fieldType? field).isSome]
  exact List.filter_cons_of_pos declaresId

/-- No field is kept twice. -/
theorem nodup_keys_keptValues (table : TypeInfo) (id now : String) :
    (Keyed.keys (keptValues table id now)).Nodup := by
  rw [keptValues, Keyed.keys_filter _ fun field => (table.fieldType? field).isSome]
  exact List.Nodup.sublist List.filter_sublist (by decide : [idField, createdField, updatedField].Nodup)

/-- Every prepared value is given, but an id only where none is explicit. -/
theorem mem_keys_givenValues_iff {field : String} :
    field ∈ Keyed.keys (givenValues prepared explicitId) ↔
      field ∈ Keyed.keys prepared.values ∧ (field = idField → explicitId = none) := by
  rw [givenValues, Keyed.keys_filter _ fun field => !(field == idField && explicitId.isSome),
    List.mem_filter]
  cases explicitId <;> simp

/-- No field is given twice. -/
theorem nodup_keys_givenValues (prepared : Payload) (explicitId : Option String) :
    (Keyed.keys (givenValues prepared explicitId)).Nodup :=
  List.Nodup.sublist (List.filter_sublist.map _) (nodup_keys_values prepared)

/-- The defaults of a row are the kept values. -/
theorem entries_defaults (table : TypeInfo) (id now : String) :
    (defaults table id now).entries.entries = Input.ofValues (keptValues table id now) := by
  have isFold : defaults table id now =
      (keptValues table id now).foldl (fun row entry => row.set entry.1 entry.2) .empty := by
    simp only [defaults, keptValues, List.filter_cons, List.filter_nil]
    cases table.fieldType? idField <;> cases table.fieldType? createdField <;>
      cases table.fieldType? updatedField <;> rfl
  rw [isFold, @entries_foldl_setValues _ .empty [] rfl,
    Keyed.putAll_nil (nodup_keys_keptValues table id now)]

/-- A new row holds the values of the caller, set over those its table keeps. -/
theorem values_of_prepareInsert
    (isPrepared : payload.prepareInsert table explicitId freshId now = .ok row) :
    ∃ prepared, payload.prepareUpdate table = .ok prepared ∧
      row.values = Keyed.putAll (givenValues prepared explicitId)
        (keptValues table (explicitId.getD freshId) now) := by
  obtain ⟨prepared, truncated, same⟩ := bind_eq_ok_iff.mp isPrepared
  cases same
  exact ⟨prepared, truncated, values_of_entries
    (entries_foldl_setValues _ (entries_defaults table _ now))⟩

/-- A prepared row has the kept fields first and then the set ones. -/
theorem keys_of_prepareInsert (declaresId : (table.fieldType? idField).isSome)
    (isPrepared : payload.prepareInsert table explicitId freshId now = .ok row) :
    Keyed.keys row.values = insertedFields payload table := by
  obtain ⟨prepared, truncated, values⟩ := values_of_prepareInsert isPrepared
  rw [values, Keyed.keys_putAll (nodup_keys_givenValues prepared explicitId),
    keys_keptValues declaresId, insertedFields, givenValues,
    Keyed.keys_filter _ fun field => !(field == idField && explicitId.isSome),
    ← (truncates_of_prepareUpdate truncated).keys, keys_values, List.filter_filter]
  -- What is left out of the given values is the identifier, which is kept already.
  refine congrArg _ (List.filter_congr fun field _ => ?_)
  by_cases isId : field = idField
  · simp [isId]
  · simp [isId]

/-- A declared field that the payload sets is a field of the row. -/
theorem mem_keys_of_prepareInsert {field : String} {value : Json}
    (isPrepared : payload.prepareInsert table explicitId freshId now = .ok row)
    (isSet : payload.get? field = some (.value value))
    (isDeclared : (table.fieldType? field).isSome) : field ∈ Keyed.keys row.values := by
  obtain ⟨prepared, truncated, values⟩ := values_of_prepareInsert isPrepared
  have isGiven : field ∈ Keyed.keys prepared.values := by
    rw [← (truncates_of_prepareUpdate truncated).keys]
    exact mem_keys_values_iff.mpr ⟨value, isSet⟩
  rw [values, Keyed.mem_keys_putAll_iff (nodup_keys_givenValues prepared explicitId)]
  by_cases isId : field = idField
  · subst isId
    left
    rw [keys_keptValues isDeclared]
    exact List.mem_cons_self
  · exact .inr (mem_keys_givenValues_iff.mpr ⟨isGiven, fun same => absurd same isId⟩)

/-- Every value of a prepared row has its source. -/
theorem fills_of_prepareInsert
    (isPrepared : payload.prepareInsert table explicitId freshId now = .ok row)
    {entry : String × Json} (mem : entry ∈ row.values) :
    Fills table payload explicitId freshId now entry.1 entry.2 := by
  obtain ⟨field, value⟩ := entry
  obtain ⟨prepared, truncated, values⟩ := values_of_prepareInsert isPrepared
  have related := truncates_of_prepareUpdate truncated
  have held := (Keyed.lookup?_eq_some_iff (nodup_keys_values row) field value).mpr mem
  rw [values, Keyed.lookup?_putAll (nodup_keys_givenValues prepared explicitId),
    Option.or_eq_some_iff] at held
  rcases held with isGiven | ⟨notGiven, isKept⟩
  · have isGiven := Keyed.mem_of_lookup? isGiven
    have notExplicit := (mem_keys_givenValues_iff.mp (List.mem_map_of_mem isGiven)).2
    obtain ⟨⟨_, given⟩, isValue, rfl, truncates⟩ :=
      related.exists_of_mem_right (List.mem_of_mem_filter isGiven)
    exact .set notExplicit (mem_values_iff.mp isValue) truncates
  · have unset (notExplicit : field = idField → explicitId = none) :
        ∀ value, payload.get? field ≠ some (.value value) := by
      rw [Keyed.lookup?_eq_none_iff, mem_keys_givenValues_iff, ← related.keys,
        mem_keys_values_iff] at notGiven
      exact fun value isSet => notGiven ⟨⟨value, isSet⟩, notExplicit⟩
    have isKept := List.mem_of_mem_filter (Keyed.mem_of_lookup? isKept)
    simp only [List.mem_cons, Prod.mk.injEq, List.not_mem_nil, or_false] at isKept
    obtain ⟨rfl, rfl⟩ | ⟨rfl, rfl⟩ | ⟨rfl, rfl⟩ := isKept
    · cases explicitId with
      | none => exact .freshId rfl (unset fun _ => rfl)
      | some id => exact .explicitId rfl
    · exact .now (.inl rfl) (unset (absurd · (by decide)))
    · exact .now (.inr rfl) (unset (absurd · (by decide)))

end Payload

end CatalogSql
