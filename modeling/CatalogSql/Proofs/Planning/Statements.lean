import CatalogSql.Planning.Statements
import CatalogSql.Proofs.Failing
import CatalogSql.Proofs.Keyed.Related
import CatalogSql.Proofs.Keyed.Sorted

/-!
# What planned statements are

Each plan that succeeds is one statement, made from the table that was looked up, the
expression of the condition and the values written.
-/

namespace CatalogSql

/-- A table is found under the name it carries when types are stored under their own names. -/
theorem Catalog.KeyedByName.name_eq {catalog : Catalog} {name : String} {table : TypeInfo}
    (keyed : catalog.KeyedByName) (found : catalog.lookupTable name = .ok table) :
    table.name = name := by
  unfold lookupTable at found
  split at found
  · rename_i type stored
    split at found
    · cases found
      have mem := (Keyed.lookup?_eq_some_iff (Keyed.nodup_keys catalog.types) name table).mp stored
      exact (keyed _ mem).symm
    · cases found
  · cases found

/-- A required field has its declared type. -/
theorem TypeInfo.requireField_eq_ok_iff {table : TypeInfo} {field : String} {type : SemanticType} :
    table.requireField field = .ok type ↔ table.fieldType? field = some type := by
  rw [requireField, mapError_eq_ok_iff, lookupField]
  cases table.fieldType? field with
  | none => simp
  | some found => simp

namespace Scope

variable {scope : Scope} {tableName : String} {condition : Condition} {plan : Sql.Plan}

/-- The read of a table under its own name. -/
def readOf (scope : Scope) (table : TypeInfo) (selection : Selection) (expression : Sql.Expression)
    (limit : Option UInt32) : Sql.Select :=
  ⟨[], Projection.ofSelection table selection (some table.name),
    some (.table (scope.reference table) table.name), [], expression, [], limit, none⟩

/-- When a read is built, and which one. -/
theorem select_eq_ok_iff {selection : Selection} {limit : Option UInt32} {read : Sql.Select} :
    scope.select tableName condition selection limit = .ok read ↔
      ∃ table expression, scope.lookupTable tableName = .ok table ∧
        condition.expression table (some table.name) = .ok expression ∧
        read = scope.readOf table selection expression limit := by
  unfold select
  simp only [bind_eq_ok_iff, pure, Except.pure, Except.ok.injEq]
  constructor
  · rintro ⟨table, found, expression, built, rfl⟩
    exact ⟨table, expression, found, built, rfl⟩
  · rintro ⟨table, expression, found, built, rfl⟩
    exact ⟨table, found, expression, built, rfl⟩

/-- When a read is planned, and the plan. -/
theorem planSelect_eq_ok_iff {selection : Selection} {limit : Option UInt32} :
    scope.planSelect tableName condition selection limit = .ok plan ↔
      ∃ table expression, scope.lookupTable tableName = .ok table ∧
        condition.expression table (some table.name) = .ok expression ∧
        plan = ⟨tableName, .select (scope.readOf table selection expression limit)⟩ := by
  rw [planSelect, map_eq_ok_iff]
  simp only [select_eq_ok_iff]
  constructor
  · rintro ⟨read, ⟨table, expression, found, built, rfl⟩, rfl⟩
    exact ⟨table, expression, found, built, rfl⟩
  · rintro ⟨table, expression, found, built, rfl⟩
    exact ⟨_, ⟨table, expression, found, built, rfl⟩, rfl⟩

/-- A written value is the value typed for its declared field. -/
theorem writtenValue_eq_ok_iff {table : TypeInfo} {field : String} {value : Json}
    {written : Sql.Expression} :
    writtenValue table field value = .ok written ↔
      ∃ type typed, table.fieldType? field = some type ∧
        TypedValue.ofJson table.name field type value = .ok typed ∧ written = typed.written := by
  unfold writtenValue
  simp only [bind_eq_ok_iff, TypeInfo.requireField_eq_ok_iff]
  constructor
  · rintro ⟨type, declared, typed, accepted, same⟩
    cases same
    exact ⟨type, typed, declared, accepted, rfl⟩
  · rintro ⟨type, typed, declared, accepted, rfl⟩
    exact ⟨type, declared, typed, accepted, rfl⟩

/-- Values are written one by one. -/
theorem writtenValues_cons_eq_ok_iff {table : TypeInfo} {field : String} {value : Json}
    {rest : List (String × Json)} {entries : List (String × Sql.Expression)} :
    writtenValues table ((field, value) :: rest) = .ok entries ↔
      ∃ written following, writtenValue table field value = .ok written ∧
        writtenValues table rest = .ok following ∧ entries = (field, written) :: following := by
  rw [writtenValues]
  simp only [bind_eq_ok_iff]
  constructor
  · rintro ⟨written, isWritten, following, restWritten, same⟩
    cases same
    exact ⟨written, following, isWritten, restWritten, rfl⟩
  · rintro ⟨written, following, isWritten, restWritten, rfl⟩
    exact ⟨written, isWritten, following, restWritten, rfl⟩

/-- Values are written to the columns of their fields, in order. -/
theorem related_of_writtenValues {table : TypeInfo} {entries : List (String × Json)}
    {written : List (String × Sql.Expression)}
    (areWritten : writtenValues table entries = .ok written) :
    Keyed.Related (fun field value expression => writtenValue table field value = .ok expression)
      entries written := by
  induction entries generalizing written with
  | nil =>
      cases areWritten
      exact .nil
  | cons entry rest ih =>
      obtain ⟨expression, following, isWritten, restWritten, rfl⟩ :=
        writtenValues_cons_eq_ok_iff.mp areWritten
      exact .cons ⟨rfl, isWritten⟩ (ih restWritten)

/-- When an insertion is planned, and the plan. -/
theorem planInsert_eq_ok_iff {payload : Payload} {explicitId : Option String}
    {freshId now : String} :
    scope.planInsert tableName payload explicitId freshId now = .ok plan ↔
      ∃ table row written, scope.lookupTable tableName = .ok table ∧
        payload.prepareInsert table explicitId freshId now = .ok row ∧
        writtenValues table row.values = .ok written ∧
        plan = ⟨table.name, .insertion ⟨scope.schema, table.name, written.map (·.1),
          written.map (·.2), Projection.returning table⟩⟩ := by
  unfold planInsert
  simp only [bind_eq_ok_iff, pure, Except.pure, Except.ok.injEq]
  constructor
  · rintro ⟨table, found, row, prepared, written, typed, rfl⟩
    exact ⟨table, row, written, found, prepared, typed, rfl⟩
  · rintro ⟨table, row, written, found, prepared, typed, rfl⟩
    exact ⟨table, found, row, prepared, written, typed, rfl⟩

/-- When an update is planned, and the plan. -/
theorem planUpdate_eq_ok_iff {payload : Payload} :
    scope.planUpdate tableName condition payload = .ok plan ↔
      ∃ table prepared written expression, scope.lookupTable tableName = .ok table ∧
        payload.prepareUpdate table = .ok prepared ∧
        writtenValues table prepared.values = .ok written ∧ written ≠ [] ∧
        condition.expression table none = .ok expression ∧
        plan = ⟨table.name, .update ⟨scope.schema, table.name, written, expression,
          Projection.returning table⟩⟩ := by
  unfold planUpdate
  simp only [bind_eq_ok_iff]
  constructor
  · rintro ⟨table, found, prepared, truncated, written, typed, planned⟩
    split at planned
    · cases planned
    · rename_i nonempty
      obtain ⟨expression, built, same⟩ := bind_eq_ok_iff.mp planned
      cases same
      exact ⟨table, prepared, written, expression, found, truncated, typed,
        fun empty => nonempty (by rw [empty]; rfl), built, rfl⟩
  · rintro ⟨table, prepared, written, expression, found, truncated, typed, nonempty, built, rfl⟩
    refine ⟨table, found, prepared, truncated, written, typed, ?_⟩
    rw [if_neg (by rwa [List.isEmpty_iff])]
    exact bind_eq_ok_iff.mpr ⟨expression, built, rfl⟩

/-- When a removal is planned, and the plan. -/
theorem planDelete_eq_ok_iff :
    scope.planDelete tableName condition = .ok plan ↔
      ∃ table expression, scope.lookupTable tableName = .ok table ∧
        condition.expression table none = .ok expression ∧
        plan = ⟨table.name, .deletion ⟨scope.schema, table.name, expression⟩⟩ := by
  unfold planDelete
  simp only [bind_eq_ok_iff, pure, Except.pure, Except.ok.injEq]
  constructor
  · rintro ⟨table, found, expression, built, rfl⟩
    exact ⟨table, expression, found, built, rfl⟩
  · rintro ⟨table, expression, found, built, rfl⟩
    exact ⟨table, found, expression, built, rfl⟩

end Scope

end CatalogSql
