import CatalogSql.Planning.Preparation
import CatalogSql.Proofs.Failing
import CatalogSql.Proofs.Keyed.Related
import CatalogSql.Proofs.Keyed.Ordered

/-!
# What prepared payloads are

A text given for a date field is replaced by the stored text of its second; every other
input stays as it is.
-/

namespace CatalogSql

/-! ## The values of payloads -/

/-- Values given for keys, as inputs. -/
def Input.ofValues (entries : List (String × Json)) : List (String × Input) :=
  entries.map fun entry => (entry.1, .value entry.2)

theorem Input.keys_ofValues (entries : List (String × Json)) :
    Keyed.keys (ofValues entries) = Keyed.keys entries := by
  rw [Keyed.keys, ofValues, List.map_map]
  rfl

namespace Payload

/-- The values of a payload made of values are those values. -/
theorem values_of_entries {payload : Payload} {entries : List (String × Json)}
    (isPayload : payload.entries.entries = Input.ofValues entries) : payload.values = entries := by
  rw [values, isPayload, Input.ofValues, List.filterMap_map]
  exact List.filterMap_some

/-- The values under distinct fields are the values of their payload. -/
theorem values_ofValues {entries : List (String × Json)}
    (distinct : (Keyed.keys entries).Nodup) :
    (⟨.ofList (Input.ofValues entries)⟩ : Payload).values = entries :=
  values_of_entries (OrderedMap.entries_ofList (by rwa [Input.keys_ofValues]))

/-- The values of a payload are what its fields are set to. -/
theorem mem_values_iff {payload : Payload} {field : String} {value : Json} :
    (field, value) ∈ payload.values ↔ payload.get? field = some (.value value) := by
  have held : payload.get? field = some (.value value) ↔
      (field, .value value) ∈ payload.entries.entries :=
    Keyed.lookup?_eq_some_iff payload.entries.distinct field (.value value)
  rw [held, values, List.mem_filterMap]
  constructor
  · rintro ⟨⟨other, input⟩, mem, same⟩
    cases input with
    | unset => cases same
    | value held =>
        cases same
        exact mem
  · intro mem
    exact ⟨_, mem, rfl⟩

/-- No field of a payload has two values. -/
theorem nodup_keys_values (payload : Payload) : (Keyed.keys payload.values).Nodup := by
  refine List.Nodup.sublist ?_ payload.entries.distinct
  rw [values]
  generalize payload.entries.entries = entries
  induction entries with
  | nil => exact .slnil
  | cons entry rest ih =>
      obtain ⟨field, input⟩ := entry
      cases input with
      | unset => exact ih.cons field
      | value value => exact ih.cons_cons field

/-- A field is set when some value is given for it. -/
theorem mem_keys_values_iff {payload : Payload} {field : String} :
    field ∈ Keyed.keys payload.values ↔ ∃ value, payload.get? field = some (.value value) := by
  simp only [← mem_values_iff, Keyed.keys, List.mem_map]
  constructor
  · rintro ⟨⟨_, value⟩, mem, rfl⟩
    exact ⟨value, mem⟩
  · rintro ⟨value, mem⟩
    exact ⟨_, mem, rfl⟩

/-- Setting values one after another in a payload of values. -/
theorem entries_foldl_setValues (given : List (String × Json)) {row : Payload}
    {held : List (String × Json)} (isRow : row.entries.entries = Input.ofValues held) :
    (given.foldl (fun row entry => row.set entry.1 entry.2) row).entries.entries =
      Input.ofValues (Keyed.putAll given held) := by
  induction given generalizing row held with
  | nil => exact isRow
  | cons entry rest ih =>
      have isSet : (row.set entry.1 entry.2).entries.entries =
          Input.ofValues (Keyed.put entry.1 entry.2 held) := by
        rw [set, insert, OrderedMap.entries_insert, isRow]
        exact Keyed.put_map Input.value entry.1 entry.2 held
      exact ih isSet

/-! ## Truncated inputs -/

variable {table : TypeInfo} {field : String} {input truncated : Input}

/-- Truncating an input replaces a date and keeps everything else. -/
theorem truncateInput_eq_ok_iff :
    truncateInput table field input = .ok truncated ↔
      (∃ text stored, table.fieldType? field = some .dateTime ∧ input = .value (.string text) ∧
        truncateToSeconds? text = some stored ∧ truncated = .value (.string stored)) ∨
      ((∀ text, table.fieldType? field = some .dateTime → input ≠ .value (.string text)) ∧
        truncated = input) := by
  unfold truncateInput
  split
  · rename_i text declared
    rw [declared]
    cases stored : truncateToSeconds? text with
    | none =>
        constructor
        · rintro ⟨⟩
        · rintro (⟨_, _, -, ⟨⟩, isStored, -⟩ | ⟨noDate, -⟩)
          · rw [stored] at isStored
            cases isStored
          · exact absurd rfl (noDate text rfl)
    | some stored' =>
        constructor
        · rintro ⟨⟩
          exact .inl ⟨text, stored', rfl, rfl, stored, rfl⟩
        · rintro (⟨_, _, -, ⟨⟩, isStored, rfl⟩ | ⟨noDate, -⟩)
          · rw [stored] at isStored
            cases isStored
            rfl
          · exact absurd rfl (noDate text rfl)
  · rename_i other
    constructor
    · rintro ⟨⟩
      exact .inr ⟨fun text declared same => other text declared same, rfl⟩
    · rintro (⟨text, _, declared, isText, -, -⟩ | ⟨-, rfl⟩)
      · exact absurd isText (other text declared)
      · rfl

/-- Entries are truncated one by one. -/
theorem truncateEntries_cons_eq_ok_iff {rest entries : List (String × Input)} :
    truncateEntries table ((field, input) :: rest) = .ok entries ↔
      ∃ truncated following, truncateInput table field input = .ok truncated ∧
        truncateEntries table rest = .ok following ∧
        entries = (field, truncated) :: following := by
  rw [truncateEntries]
  simp only [bind_eq_ok_iff]
  constructor
  · rintro ⟨truncated, isTruncated, following, restTruncated, same⟩
    cases same
    exact ⟨truncated, following, isTruncated, restTruncated, rfl⟩
  · rintro ⟨truncated, following, isTruncated, restTruncated, rfl⟩
    exact ⟨truncated, isTruncated, following, restTruncated, rfl⟩

theorem truncateInput_unset (table : TypeInfo) (field : String) :
    truncateInput table field .unset = .ok .unset := by
  refine truncateInput_eq_ok_iff.mpr (.inr ⟨?_, rfl⟩)
  rintro text - ⟨⟩

/-- A value with what is stored for it: the second of a text in a date field, and anything else
as it is. -/
inductive Truncates (table : TypeInfo) (field : String) : Json → Json → Prop where
  | date {text stored : String} (declared : table.fieldType? field = some .dateTime)
      (isDate : truncateToSeconds? text = some stored) :
      Truncates table field (.string text) (.string stored)
  | other {value : Json}
      (noDate : ∀ text, table.fieldType? field = some .dateTime → value ≠ .string text) :
      Truncates table field value value

/-- When a value is truncated, and to which one. -/
theorem truncateInput_value_eq_ok_iff {value : Json} :
    truncateInput table field (.value value) = .ok truncated ↔
      ∃ stored, Truncates table field value stored ∧ truncated = .value stored := by
  rw [truncateInput_eq_ok_iff]
  constructor
  · rintro (⟨text, stored, declared, isText, isDate, rfl⟩ | ⟨noDate, rfl⟩)
    · cases isText
      exact ⟨_, .date declared isDate, rfl⟩
    · exact ⟨value, .other fun text declared isText => noDate text declared (isText ▸ rfl), rfl⟩
  · rintro ⟨stored, truncates, rfl⟩
    cases truncates with
    | date declared isDate => exact .inl ⟨_, _, declared, rfl, isDate, rfl⟩
    | other noDate =>
        refine .inr ⟨fun text declared isText => noDate text declared ?_, rfl⟩
        cases isText
        rfl

/-- Truncating keeps the fields and their order. -/
theorem related_of_truncateEntries {entries others : List (String × Input)}
    (areTruncated : truncateEntries table entries = .ok others) :
    Keyed.Related (fun field input other => truncateInput table field input = .ok other)
      entries others := by
  induction entries generalizing others with
  | nil =>
      cases areTruncated
      exact .nil
  | cons entry rest ih =>
      obtain ⟨_, following, isTruncated, restTruncated, rfl⟩ :=
        truncateEntries_cons_eq_ok_iff.mp areTruncated
      exact .cons ⟨rfl, isTruncated⟩ (ih restTruncated)

/-- A prepared update has the truncated entries. -/
theorem entries_of_prepareUpdate {payload prepared : Payload}
    (isPrepared : payload.prepareUpdate table = .ok prepared) :
    truncateEntries table payload.entries.entries = .ok prepared.entries.entries := by
  obtain ⟨entries, areTruncated, rfl⟩ := map_eq_ok_iff.mp isPrepared
  have keys := (related_of_truncateEntries areTruncated).keys
  rw [OrderedMap.entries_ofList (keys ▸ payload.entries.distinct)]
  exact areTruncated

/-- The values of a prepared payload are those given, truncated field by field. -/
theorem truncates_of_prepareUpdate {payload prepared : Payload}
    (isPrepared : payload.prepareUpdate table = .ok prepared) :
    Keyed.Related (Truncates table) payload.values prepared.values := by
  have related := related_of_truncateEntries (entries_of_prepareUpdate isPrepared)
  unfold Payload.values
  generalize payload.entries.entries = entries, prepared.entries.entries = others at related ⊢
  induction related with
  | nil => exact .nil
  | @cons entry other _ _ head _ ih =>
      obtain ⟨field, input⟩ := entry
      obtain ⟨_, otherInput⟩ := other
      obtain ⟨rfl, isTruncated⟩ := head
      cases input with
      | unset =>
          cases (truncateInput_unset table field).symm.trans isTruncated
          exact ih
      | value value =>
          obtain ⟨stored, truncates, rfl⟩ := truncateInput_value_eq_ok_iff.mp isTruncated
          exact .cons ⟨rfl, truncates⟩ ih

end Payload

end CatalogSql
