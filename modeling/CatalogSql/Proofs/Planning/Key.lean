import CatalogSql.Planning.Key
import Mathlib.Data.List.Nodup

/-!
# Readings of condition keys

A key reads as a declared field followed by the suffix of an operator. Resolving a key
finds exactly these readings, and takes one only when it is alone.
-/

namespace CatalogSql

/-- An ending is dropped exactly if the text has it. -/
theorem dropEnding?_eq_some_iff (ending text rest : List Char) :
    dropEnding? ending text = some rest ↔ rest ++ ending = text := by
  unfold dropEnding?
  split
  · rename_i isEnding
    obtain ⟨front, rfl⟩ := List.isSuffixOf_iff_suffix.mp isEnding
    simp [eq_comm]
  · rename_i noEnding
    constructor
    · rintro ⟨⟩
    · rintro rfl
      exact absurd (List.isSuffixOf_iff_suffix.mpr (List.suffix_append rest ending)) noEnding

namespace ResolvedKey

variable {table : TypeInfo} {key : String}

/-- A declared field and an operator that a key spells. -/
structure IsReading (table : TypeInfo) (key : String) (reading : ResolvedKey) : Prop where
  spelled : reading.field ++ reading.operator.suffix = key
  declared : table.fieldType? reading.field = some reading.type

/-- The reading of a key that has no other. -/
structure IsOnlyReading (table : TypeInfo) (key : String) (reading : ResolvedKey) : Prop where
  isReading : IsReading table key reading
  alone : ∀ other, IsReading table key other → other = reading

/-- A key has at most one only reading. -/
theorem IsOnlyReading.unique {first second : ResolvedKey} (only : IsOnlyReading table key first)
    (other : IsOnlyReading table key second) : first = second :=
  other.alone first only.isReading

/-- A reading with an operator is found exactly if there is one. -/
theorem reading?_eq_some_iff (operator : Operator) (reading : ResolvedKey) :
    reading? table key operator = some reading ↔
      IsReading table key reading ∧ reading.operator = operator := by
  have spelled : ∀ characters : List Char, characters ++ operator.suffix.toList = key.toList ↔
      String.ofList characters ++ operator.suffix = key := by
    intro characters
    rw [← String.toList_inj, String.toList_append, String.toList_ofList]
  unfold reading?
  split
  · rename_i characters dropped
    rw [dropEnding?_eq_some_iff, spelled] at dropped
    rw [Option.map_eq_some_iff]
    constructor
    · rintro ⟨type, declared, rfl⟩
      exact ⟨⟨dropped, declared⟩, rfl⟩
    · rintro ⟨isReading, rfl⟩
      have sameField : String.ofList characters = reading.field := by
        have both := dropped.trans isReading.spelled.symm
        rw [← String.toList_inj, String.toList_append, String.toList_append] at both
        exact String.toList_inj.mp (List.append_cancel_right both)
      exact ⟨reading.type, sameField ▸ isReading.declared, by rw [sameField]⟩
  · rename_i notDropped
    constructor
    · rintro ⟨⟩
    · rintro ⟨isReading, rfl⟩
      have dropped := (dropEnding?_eq_some_iff reading.operator.suffix.toList key.toList
        reading.field.toList).mpr (by rw [← isReading.spelled, String.toList_append])
      rw [notDropped] at dropped
      cases dropped

/-- The readings found are the readings a key has. -/
theorem mem_readings_iff (reading : ResolvedKey) :
    reading ∈ readings table key ↔ IsReading table key reading := by
  rw [readings, List.mem_filterMap]
  constructor
  · rintro ⟨operator, _, found⟩
    exact ((reading?_eq_some_iff operator reading).mp found).1
  · intro isReading
    refine ⟨reading.operator, ?_, (reading?_eq_some_iff _ reading).mpr ⟨isReading, rfl⟩⟩
    cases reading.operator <;> decide

/-- No reading is found twice. -/
theorem nodup_readings : (readings table key).Nodup := by
  refine List.Nodup.filterMap ?_ (by decide)
  intro first second reading found foundAgain
  exact ((reading?_eq_some_iff first reading).mp found).2.symm.trans
    ((reading?_eq_some_iff second reading).mp foundAgain).2

/-- Resolving a key takes its only reading, and tells a key without a reading from one with
several. -/
theorem resolve_cases (table : TypeInfo) (key : String) :
    (∃ reading, IsOnlyReading table key reading ∧ resolve table key = .ok reading) ∨
      ((∀ reading, ¬ IsReading table key reading) ∧
        resolve table key = .error (.unsupportedOperator key table.name)) ∨
      ∃ first second, IsReading table key first ∧ IsReading table key second ∧ first ≠ second ∧
        resolve table key = .error (.ambiguousKey key table.name) := by
  have members := @mem_readings_iff table key
  have distinct := @nodup_readings table key
  unfold resolve
  match found : readings table key with
  | [] =>
      rw [found] at members
      refine .inr (.inl ⟨?_, rfl⟩)
      intro reading isReading
      cases (members reading).mpr isReading
  | [only] =>
      rw [found] at members
      refine .inl ⟨only, ⟨(members only).mp (by simp), ?_⟩, rfl⟩
      intro other isReading
      exact List.mem_singleton.mp ((members other).mpr isReading)
  | first :: second :: rest =>
      rw [found] at members distinct
      refine .inr (.inr ⟨first, second, (members first).mp (by simp),
        (members second).mp (by simp), ?_, rfl⟩)
      rintro rfl
      exact (List.nodup_cons.mp distinct).1 (by simp)

/-- A key is resolved to its only reading. -/
theorem resolve_eq_ok_iff (reading : ResolvedKey) :
    resolve table key = .ok reading ↔ IsOnlyReading table key reading := by
  rcases resolve_cases table key with
    ⟨found, only, resolved⟩ | ⟨none, resolved⟩ | ⟨first, second, isFirst, isSecond, differ, resolved⟩
  · rw [resolved]
    constructor
    · rintro ⟨⟩
      exact only
    · intro other
      rw [only.unique other]
  · rw [resolved]
    constructor
    · rintro ⟨⟩
    · intro only
      exact absurd only.isReading (none reading)
  · rw [resolved]
    constructor
    · rintro ⟨⟩
    · intro only
      exact absurd ((only.alone first isFirst).trans (only.alone second isSecond).symm) differ

end ResolvedKey

end CatalogSql
