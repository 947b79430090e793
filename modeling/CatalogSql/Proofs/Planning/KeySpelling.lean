import CatalogSql.Proofs.Planning.Key
import Mathlib.Data.Set.Card

/-!
# How condition keys are spelled

A key is spelled for a field and an operator by the field's name and what the operator adds to
it. Two of the three ways to spell a key end differently, so a key is spelled in at most two ways
for the fields of a table. Resolving a key undoes its spelling where there is one way, and tells
no way from two.
-/

namespace CatalogSql.ResolvedKey

/-- How a key is spelled for a field and an operator. -/
inductive Spells (field : String) : Operator → String → Prop where
  | equals : Spells field .equals field
  | lessThan : Spells field .lessThan (field ++ "_lt")
  | contains : Spells field .contains (field ++ "_contains")

/-- The declared fields with the operators that a key is spelled for. -/
def spellings (table : TypeInfo) (key : String) : Set (String × Operator) :=
  {spelling | (table.fieldType? spelling.1).isSome ∧ Spells spelling.1 spelling.2 key}

variable {table : TypeInfo} {key field : String} {operator : Operator}

theorem spells_iff : Spells field operator key ↔ field ++ operator.suffix = key := by
  constructor
  · rintro (_ | _ | _)
    · exact String.append_empty
    · rfl
    · rfl
  · rintro rfl
    cases operator with
    | equals => exact String.append_empty.symm ▸ .equals
    | lessThan => exact .lessThan
    | contains => exact .contains

/-- A key is spelled for at most one field with one operator. -/
theorem Spells.field_eq {other : String} (spells : Spells field operator key)
    (again : Spells other operator key) : field = other := by
  have same := (spells_iff.mp spells).trans (spells_iff.mp again).symm
  rw [← String.toList_inj, String.toList_append, String.toList_append] at same
  exact String.toList_inj.mp (List.append_cancel_right same)

/-- No key ends like a bound and like a search. -/
theorem Spells.not_both {other : String} (bound : Spells field .lessThan key) :
    ¬ Spells other .contains key := by
  intro search
  have same := (spells_iff.mp bound).trans (spells_iff.mp search).symm
  rw [← String.toList_inj, String.toList_append, String.toList_append] at same
  have lasts := congrArg List.getLast? same
  rw [List.getLast?_append, List.getLast?_append] at lasts
  cases lasts

/-- A key is spelled for a field with at most one operator. -/
theorem Spells.operator_eq {other : Operator} (spells : Spells field operator key)
    (again : Spells field other key) : operator = other := by
  have same := (spells_iff.mp spells).trans (spells_iff.mp again).symm
  rw [← String.toList_inj, String.toList_append, String.toList_append] at same
  have suffixes := List.append_cancel_left same
  revert suffixes
  cases operator <;> cases other <;> decide

/-- A reading of a key is a spelling of it, with the type of the field. -/
theorem isReading_iff {type : SemanticType} :
    IsReading table key ⟨field, type, operator⟩ ↔
      (field, operator) ∈ spellings table key ∧ table.fieldType? field = some type := by
  constructor
  · rintro ⟨spelled, declared⟩
    exact ⟨⟨Option.isSome_iff_exists.mpr ⟨type, declared⟩, spells_iff.mpr spelled⟩, declared⟩
  · rintro ⟨⟨-, spells⟩, declared⟩
    exact ⟨spells_iff.mp spells, declared⟩

/-- Every spelling of a key is a reading of it. -/
theorem exists_isReading (spelling : (field, operator) ∈ spellings table key) :
    ∃ type, IsReading table key ⟨field, type, operator⟩ := by
  obtain ⟨type, declared⟩ := Option.isSome_iff_exists.mp spelling.1
  exact ⟨type, isReading_iff.mpr ⟨spelling, declared⟩⟩

/-- Beside its own name, a key is spelled in at most one way. -/
theorem exists_spellings_subset (table : TypeInfo) (key : String) :
    ∃ other, spellings table key ⊆ {(key, .equals), other} := by
  have equals {field : String} (spells : Spells field .equals key) : field = key :=
    spells.field_eq .equals
  -- A key that ends like neither operator is only its own name.
  by_cases bounded : ∃ field, Spells field .lessThan key
  · obtain ⟨field, bound⟩ := bounded
    refine ⟨(field, .lessThan), ?_⟩
    rintro ⟨other, _ | _ | _⟩ ⟨-, spells⟩
    · exact .inl (congrArg (·, _) (equals spells))
    · exact .inr (congrArg (·, _) (spells.field_eq bound))
    · exact absurd spells bound.not_both
  by_cases searched : ∃ field, Spells field .contains key
  · obtain ⟨field, search⟩ := searched
    refine ⟨(field, .contains), ?_⟩
    rintro ⟨other, _ | _ | _⟩ ⟨-, spells⟩
    · exact .inl (congrArg (·, _) (equals spells))
    · exact absurd ⟨other, spells⟩ bounded
    · exact .inr (congrArg (·, _) (spells.field_eq search))
  · refine ⟨(key, .equals), ?_⟩
    rintro ⟨other, _ | _ | _⟩ ⟨-, spells⟩
    · exact .inl (congrArg (·, _) (equals spells))
    · exact absurd ⟨other, spells⟩ bounded
    · exact absurd ⟨other, spells⟩ searched

/-- A key has at most two spellings. -/
theorem encard_spellings_le (table : TypeInfo) (key : String) :
    (spellings table key).encard ≤ 2 := by
  obtain ⟨other, within⟩ := exists_spellings_subset table key
  calc (spellings table key).encard
      ≤ ({(key, .equals), other} : Set (String × Operator)).encard := Set.encard_le_encard within
    _ ≤ ({other} : Set (String × Operator)).encard + 1 := Set.encard_insert_le _ _
    _ = 2 := by rw [Set.encard_singleton, one_add_one_eq_two]

/-- Resolving a key takes its only spelling, and tells a key without a spelling from one with
two. -/
theorem resolve_spellings (table : TypeInfo) (key : String) :
    (∃ reading, resolve table key = .ok reading ∧
        spellings table key = {(reading.field, reading.operator)} ∧
        table.fieldType? reading.field = some reading.type) ∨
      (resolve table key = .error (.unsupportedOperator key table.name) ∧
        spellings table key = ∅) ∨
      resolve table key = .error (.ambiguousKey key table.name) ∧
        (spellings table key).encard = 2 := by
  rcases resolve_cases table key with
    ⟨reading, ⟨isReading, alone⟩, resolved⟩ | ⟨none, resolved⟩ |
      ⟨first, second, isFirst, isSecond, differ, resolved⟩
  · refine .inl ⟨reading, resolved, ?_, isReading.declared⟩
    refine Set.eq_singleton_iff_unique_mem.mpr ⟨(isReading_iff.mp isReading).1, ?_⟩
    rintro ⟨field, operator⟩ spelling
    obtain ⟨type, isOther⟩ := exists_isReading spelling
    obtain rfl := alone _ isOther
    rfl
  · refine .inr (.inl ⟨resolved, Set.eq_empty_iff_forall_notMem.mpr ?_⟩)
    rintro ⟨field, operator⟩ spelling
    obtain ⟨type, isOther⟩ := exists_isReading spelling
    exact none _ isOther
  · refine .inr (.inr ⟨resolved, le_antisymm (encard_spellings_le table key) ?_⟩)
    obtain ⟨firstSpelling, firstType⟩ := isReading_iff.mp isFirst
    obtain ⟨secondSpelling, secondType⟩ := isReading_iff.mp isSecond
    -- The type of a reading is that of its field, so the spellings differ as the readings do.
    have apart : (first.field, first.operator) ≠ (second.field, second.operator) := by
      intro same
      obtain ⟨sameField, sameOperator⟩ := Prod.mk.inj same
      have sameType := Option.some.inj (firstType.symm.trans (sameField ▸ secondType))
      obtain ⟨_, _, _⟩ := first
      obtain ⟨_, _, _⟩ := second
      cases sameField
      cases sameOperator
      cases sameType
      exact differ rfl
    rw [← Set.encard_pair apart]
    exact Set.encard_le_encard (Set.pair_subset firstSpelling secondSpelling)

/-- A key is resolved exactly if it is spelled in one way. -/
theorem resolve_eq_ok_iff_spellings {reading : ResolvedKey} :
    resolve table key = .ok reading ↔
      spellings table key = {(reading.field, reading.operator)} ∧
        table.fieldType? reading.field = some reading.type := by
  rcases resolve_spellings table key with
    ⟨found, resolved, only, declared⟩ | ⟨resolved, none⟩ | ⟨resolved, two⟩
  · rw [resolved, only, Set.singleton_eq_singleton_iff, Except.ok.injEq]
    constructor
    · rintro rfl
      exact ⟨rfl, declared⟩
    · rintro ⟨same, declaredAgain⟩
      obtain ⟨field, type, operator⟩ := found
      obtain ⟨_, _, _⟩ := reading
      cases same
      cases declared.symm.trans declaredAgain
      rfl
  · rw [resolved, none]
    exact iff_of_false (by rintro ⟨⟩) fun single => (Set.singleton_ne_empty _) single.1.symm
  · rw [resolved]
    refine iff_of_false (by rintro ⟨⟩) fun single => ?_
    rw [single.1, Set.encard_singleton] at two
    exact absurd two (by decide)

/-- A key is refused as unknown if nothing spells it, and as ambiguous if two things do. -/
theorem resolve_eq_error_iff {error : RequestError} :
    resolve table key = .error error ↔
      error = .unsupportedOperator key table.name ∧ spellings table key = ∅ ∨
      error = .ambiguousKey key table.name ∧ (spellings table key).encard = 2 := by
  rcases resolve_spellings table key with
    ⟨found, resolved, only, -⟩ | ⟨resolved, none⟩ | ⟨resolved, two⟩
  · rw [resolved, only, Set.encard_singleton]
    refine iff_of_false (by rintro ⟨⟩) ?_
    rintro (⟨-, empty⟩ | ⟨-, two⟩)
    · exact Set.singleton_ne_empty _ empty
    · exact absurd two (by decide)
  · rw [resolved, none, Set.encard_empty, Except.error.injEq]
    simp [eq_comm]
  · rw [resolved, two, Except.error.injEq]
    have some : spellings table key ≠ ∅ := by
      intro empty
      rw [empty, Set.encard_empty] at two
      exact absurd two (by decide)
    simp [some, eq_comm]

/-- Resolving keys undoes spelling them. A key has at most two spellings; it resolves to its only
one, and is refused with its name and that of the table when it has none, and as ambiguous when it
has two. There is one key for every field and operator. For a declared field it resolves back to
the field and the operator exactly when it is spelled for no other declared field, and different
keys resolve to different fields or operators. -/
theorem resolve_undoes_spelling (table : TypeInfo) :
    (∀ key,
      (spellings table key).encard ≤ 2 ∧
      (∀ reading, resolve table key = .ok reading ↔
        spellings table key = {(reading.field, reading.operator)} ∧
          table.fieldType? reading.field = some reading.type) ∧
      ∀ error, resolve table key = .error error ↔
        error = .unsupportedOperator key table.name ∧ spellings table key = ∅ ∨
        error = .ambiguousKey key table.name ∧ (spellings table key).encard = 2) ∧
    (∀ field operator, ∃! key, Spells field operator key) ∧
    (∀ field operator key type, table.fieldType? field = some type → Spells field operator key →
      (resolve table key = .ok ⟨field, type, operator⟩ ↔
        ∀ other ∈ spellings table key, other.1 = field)) ∧
    ∀ key other reading otherReading, resolve table key = .ok reading →
      resolve table other = .ok otherReading → reading.field = otherReading.field →
      reading.operator = otherReading.operator → key = other := by
  refine ⟨fun key => ⟨encard_spellings_le table key, fun _ => resolve_eq_ok_iff_spellings,
    fun _ => resolve_eq_error_iff⟩, fun field operator => ?_, ?_, ?_⟩
  · exact ⟨field ++ operator.suffix, spells_iff.mpr rfl, fun _ spells => (spells_iff.mp spells).symm⟩
  · intro field operator key type declared spells
    have spelling : (field, operator) ∈ spellings table key :=
      ⟨Option.isSome_iff_exists.mpr ⟨type, declared⟩, spells⟩
    rw [resolve_eq_ok_iff_spellings, and_iff_left declared, Set.eq_singleton_iff_unique_mem,
      and_iff_right spelling]
    refine forall₂_congr fun other isOther => ⟨fun same => congrArg Prod.fst same, fun sameField => ?_⟩
    exact Prod.ext sameField (isOther.2.operator_eq (sameField ▸ spells))
  · intro key other reading otherReading resolved otherResolved sameField sameOperator
    have spelled := ((resolve_eq_ok_iff reading).mp resolved).isReading.spelled
    rw [← spelled, sameField, sameOperator]
    exact ((resolve_eq_ok_iff otherReading).mp otherResolved).isReading.spelled

/-- Stacked endings: one key has two spellings, and the key that is longer by an ending has one. -/
theorem resolve_undoes_spelling_stacked :
    let user : TypeInfo := .table "User" [("name", .string), ("name_lt", .string)]
    resolve user "name_lt" = .error (.ambiguousKey "name_lt" "User") ∧
      (spellings user "name_lt").encard = 2 ∧
      resolve user "name_lt_contains" = .ok ⟨"name_lt", .string, .contains⟩ ∧
      spellings user "name_lt_contains" = {("name_lt", .contains)} := by
  intro user
  have refused : resolve user "name_lt" = .error (.ambiguousKey "name_lt" "User") := rfl
  have resolved : resolve user "name_lt_contains" = .ok ⟨"name_lt", .string, .contains⟩ := rfl
  obtain ⟨keys, -, -, -⟩ := resolve_undoes_spelling user
  refine ⟨refused, ?_, resolved, (((keys "name_lt_contains").2.1 _).mp resolved).1⟩
  rcases ((keys "name_lt").2.2 _).mp refused with ⟨⟨⟩, -⟩ | ⟨-, two⟩
  exact two

end CatalogSql.ResolvedKey
