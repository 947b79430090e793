import CatalogSql.Proofs.Planning.Filtering
import CatalogSql.Proofs.Planning.NewRow
import CatalogSql.Proofs.Planning.Statements
import CatalogSql.Proofs.Sql.TakenColumns

/-!
# Fields with a column

Relations and unclassified fields have no column. A condition that asks for one and a payload
that sets one are refused, so that a planned write takes columns of fields that have one.
-/

namespace CatalogSql

open ResolvedKey (IsReading IsOnlyReading)

/-- A field of a table that its rows have a column for. -/
def TypeInfo.HasColumn (table : TypeInfo) (field : String) : Prop :=
  ∃ type, table.fieldType? field = some type ∧ type.isStorable

/-- A field with a column, of the table stored under a name. -/
def Catalog.HasColumn (catalog : Catalog) (tableName field : String) : Prop :=
  ∃ table, catalog.lookupTable tableName = .ok table ∧ table.HasColumn field

/-- The columns under a name are those of the table stored under it. -/
theorem Catalog.hasColumn_eq {catalog : Catalog} {tableName : String} {table : TypeInfo}
    (found : catalog.lookupTable tableName = .ok table) :
    catalog.HasColumn tableName = table.HasColumn := by
  funext field
  refine propext ⟨?_, fun stored => ⟨table, found, stored⟩⟩
  rintro ⟨_, foundAgain, stored⟩
  cases found.symm.trans foundAgain
  exact stored

/-- The stored fields are the declared ones of a storable type. -/
theorem TypeInfo.mem_storableFields_iff {table : TypeInfo} {field : String} {type : SemanticType} :
    (field, type) ∈ table.storableFields ↔
      table.fieldType? field = some type ∧ type.isStorable := by
  rw [storableFields, List.mem_filter]
  exact and_congr_left' (Keyed.lookup?_eq_some_iff table.fields.distinct field type).symm

/-- The returned columns are those of the table. -/
theorem TypeInfo.mem_returnedColumns_iff {table : TypeInfo} {field : String} :
    field ∈ Projection.returnedColumns table ↔ table.HasColumn field := by
  rw [Projection.returnedColumns, List.mem_map]
  constructor
  · rintro ⟨⟨_, type⟩, mem, rfl⟩
    exact ⟨type, mem_storableFields_iff.mp mem⟩
  · rintro ⟨type, stored⟩
    exact ⟨(field, type), mem_storableFields_iff.mpr stored, rfl⟩

/-- A type without a column takes no value, not even null. -/
theorem TypedValue.ofJson_of_not_storable {table field : String} {type : SemanticType}
    (noColumn : ¬ type.isStorable) (value : Json) :
    TypedValue.ofJson table field type value = .error (.unsupportedFieldType table field type) := by
  cases type with
  | relation | unknown => rfl
  | _ => exact absurd rfl noColumn

/-- Only values of storable types are typed. -/
theorem TypedValue.isStorable_of_ofJson {table field : String} {type : SemanticType} {value : Json}
    {typed : TypedValue} (accepted : TypedValue.ofJson table field type value = .ok typed) :
    type.isStorable := by
  by_contra noColumn
  rw [ofJson_of_not_storable noColumn value] at accepted
  cases accepted

/-- A written value takes no column. -/
theorem TypedValue.takesPlain_written (typed : TypedValue) (allowed : String → Prop) :
    typed.written.TakesPlain allowed := by
  cases typed <;> exact ⟨rfl, List.forall_mem_nil _⟩

variable {table : TypeInfo} {name : Option String} {field tableName : String}

/-! ## Conditions -/

/-- A condition asks for a field when a set key can be read as it. -/
def Condition.Asks (condition : Condition) (table : TypeInfo) (field : String) : Prop :=
  ∃ key value reading, (key, .value value) ∈ condition.entries.entries ∧
    IsReading table key reading ∧ reading.field = field

/-- A set key that reads as a field without a column is refused with that field and its type. -/
theorem Predicate.ofEntry_of_not_storable {key : String} {reading : ResolvedKey}
    (only : IsOnlyReading table key reading) (noColumn : ¬ reading.type.isStorable) (value : Json) :
    ofEntry table name key (.value value) =
      .error (.unsupportedFieldType table.name reading.field reading.type) := by
  rw [ofEntry, (ResolvedKey.resolve_eq_ok_iff ..).mpr only]
  simp only [bind, Except.bind, TypedValue.ofJson_of_not_storable noColumn value]

/-- A condition that is accepted asks for fields with a column only. -/
theorem Condition.hasColumn_of_asks {condition : Condition} {predicates : List Sql.Expression}
    (built : condition.predicates table name = .ok predicates)
    (asks : condition.Asks table field) : table.HasColumn field := by
  obtain ⟨key, value, reading, mem, isReading, rfl⟩ := asks
  rcases Predicate.ofEntries_cases table name condition.entries.entries with
    ⟨accepted, -⟩ | ⟨_, _, _, error, -, -, -, failed⟩
  · obtain ⟨_, only, fits⟩ := accepted _ mem
    obtain rfl := only.alone _ isReading
    obtain ⟨typed, isTyped, -⟩ := (fits value rfl).typed
    exact ⟨_, isReading.declared, TypedValue.isStorable_of_ofJson isTyped⟩
  · cases failed.symm.trans built

/-- A predicate of a condition names a column of a field that has one. -/
theorem Condition.columns_of_predicates {condition : Condition} {predicates : List Sql.Expression}
    (built : condition.predicates table name = .ok predicates) :
    ∀ predicate ∈ predicates, predicate.reads = [] ∧ ∀ reference ∈ predicate.references,
      ∃ field, reference = .named name field ∧ table.HasColumn field := by
  refine forall_mem_of_forall₂ (Predicate.compares_of_ofEntries built) fun entry predicate compares => ?_
  obtain ⟨reading, typed, only, accepted, isBuilt⟩ := compares
  obtain ⟨references, reads⟩ := Predicate.columns_of_ofValue isBuilt
  rw [Sql.references_columnOf] at references
  rw [Sql.reads_columnOf] at reads
  refine ⟨reads, fun reference mem => ?_⟩
  rw [references] at mem
  exact ⟨reading.field, List.mem_singleton.mp mem, reading.type, only.isReading.declared,
    TypedValue.isStorable_of_ofJson accepted⟩

/-- A condition takes columns of its table only. -/
theorem Condition.takesPlain_of_expression {condition : Condition} {expression : Sql.Expression}
    (built : condition.expression table none = .ok expression) :
    expression.TakesPlain table.HasColumn := by
  obtain ⟨predicates, areBuilt, rfl⟩ := map_eq_ok_iff.mp built
  exact Sql.Expression.takesPlain_conjoin (columns_of_predicates areBuilt)

/-! ## Writes -/

namespace Scope

variable {scope : Scope} {payload : Payload} {plan : Sql.Plan}

/-- A value for a field without a column is refused with that field and its type. -/
theorem writtenValue_of_not_storable {type : SemanticType}
    (declared : table.fieldType? field = some type) (noColumn : ¬ type.isStorable) (value : Json) :
    writtenValue table field value = .error (.unsupportedFieldType table.name field type) := by
  rw [writtenValue, TypeInfo.requireField_eq_ok_iff.mpr declared]
  simp only [bind, Except.bind, TypedValue.ofJson_of_not_storable noColumn value]

/-- Values are written to fields with a column, and name no columns themselves. -/
theorem hasColumn_of_writtenValues {entries : List (String × Json)}
    {written : List (String × Sql.Expression)}
    (areWritten : writtenValues table entries = .ok written) :
    ∀ assignment ∈ written, table.HasColumn assignment.1 ∧
      assignment.2.TakesPlain table.HasColumn := by
  refine forall_mem_of_forall₂ (related_of_writtenValues areWritten) ?_
  rintro entry assignment ⟨sameField, isWritten⟩
  obtain ⟨type, typed, declared, accepted, same⟩ := writtenValue_eq_ok_iff.mp isWritten
  refine ⟨⟨type, sameField ▸ declared, TypedValue.isStorable_of_ofJson accepted⟩, ?_⟩
  rw [same]
  exact typed.takesPlain_written _

/-- The returned expressions take columns of their table only. -/
theorem takesPlain_of_returning (table : TypeInfo) :
    ∀ returned ∈ Projection.returning table, returned.2.TakesPlain table.HasColumn := by
  intro returned mem
  obtain ⟨field, isReturned, rfl⟩ := List.mem_map.mp mem
  refine ⟨rfl, fun reference isColumn => ⟨field, List.mem_singleton.mp isColumn, ?_⟩⟩
  exact TypeInfo.mem_returnedColumns_iff.mp isReturned

/-- What a write sets is written to fields with a column. -/
theorem hasColumn_of_mem_keys {entries : List (String × Json)}
    {written : List (String × Sql.Expression)}
    (areWritten : writtenValues table entries = .ok written) (mem : field ∈ Keyed.keys entries) :
    table.HasColumn field := by
  rw [(related_of_writtenValues areWritten).keys] at mem
  obtain ⟨assignment, isWritten, rfl⟩ := List.mem_map.mp mem
  exact (hasColumn_of_writtenValues areWritten assignment isWritten).1

/-- A table is found under the name it carries. -/
theorem hasColumn_eq_of_lookupTable (keyed : scope.catalog.KeyedByName)
    (found : scope.lookupTable tableName = .ok table) :
    scope.catalog.HasColumn table.name = table.HasColumn := by
  have isTable := mapError_eq_ok_iff.mp found
  rw [keyed.name_eq isTable]
  exact Catalog.hasColumn_eq isTable

/-- The plans of writes. -/
inductive PlansWrite (scope : Scope) : Sql.Plan → Prop where
  | insert {tableName : String} {payload : Payload} {explicitId : Option String}
      {freshId now : String} {plan : Sql.Plan}
      (planned : scope.planInsert tableName payload explicitId freshId now = .ok plan) :
      PlansWrite scope plan
  | update {tableName : String} {condition : Condition} {payload : Payload} {plan : Sql.Plan}
      (planned : scope.planUpdate tableName condition payload = .ok plan) : PlansWrite scope plan
  | delete {tableName : String} {condition : Condition} {plan : Sql.Plan}
      (planned : scope.planDelete tableName condition = .ok plan) : PlansWrite scope plan

/-- A planned write takes columns of fields that have one. -/
theorem takesOnly_of_plansWrite (keyed : scope.catalog.KeyedByName) (writes : scope.PlansWrite plan) :
    plan.statement.TakesOnly scope.catalog.HasColumn := by
  cases writes with
  | insert planned =>
      obtain ⟨table, row, written, found, -, typed, rfl⟩ := planInsert_eq_ok_iff.mp planned
      have each := hasColumn_of_writtenValues typed
      simp only [Sql.Statement.TakesOnly]
      rw [hasColumn_eq_of_lookupTable keyed found]
      refine ⟨?_, ?_, takesPlain_of_returning table⟩
      · exact List.forall_mem_map.mpr fun assignment mem => (each assignment mem).1
      · exact List.forall_mem_map.mpr fun assignment mem => (each assignment mem).2
  | update planned =>
      obtain ⟨table, prepared, written, expression, found, -, typed, -, built, rfl⟩ :=
        planUpdate_eq_ok_iff.mp planned
      simp only [Sql.Statement.TakesOnly]
      rw [hasColumn_eq_of_lookupTable keyed found]
      exact ⟨hasColumn_of_writtenValues typed, Condition.takesPlain_of_expression built,
        takesPlain_of_returning table⟩
  | delete planned =>
      obtain ⟨table, expression, found, built, rfl⟩ := planDelete_eq_ok_iff.mp planned
      simp only [Sql.Statement.TakesOnly]
      rw [hasColumn_eq_of_lookupTable keyed found]
      exact Condition.takesPlain_of_expression built

/-! ## Refused requests -/


/-- Every request that needs the column of a field is refused: a condition that asks for it, and
a payload that sets it. The error of the one entry names the field and its type. -/
structure Refuses (scope : Scope) (tableName : String) (table : TypeInfo) (field : String)
    (type : SemanticType) : Prop where
  entry {key : String} {reading : ResolvedKey} (only : IsOnlyReading table key reading)
    (isField : reading.field = field) (name : Option String) (value : Json) :
    Predicate.ofEntry table name key (.value value) =
      .error (.unsupportedFieldType table.name field type)
  value (value : Json) :
    writtenValue table field value = .error (.unsupportedFieldType table.name field type)
  condition {condition : Condition} (asks : condition.Asks table field) (name : Option String)
    (predicates : List Sql.Expression) : condition.predicates table name ≠ .ok predicates
  select {condition : Condition} (asks : condition.Asks table field) (selection : Selection)
    (limit : Option UInt32) (plan : Sql.Plan) :
    scope.planSelect tableName condition selection limit ≠ .ok plan
  delete {condition : Condition} (asks : condition.Asks table field) (plan : Sql.Plan) :
    scope.planDelete tableName condition ≠ .ok plan
  update {condition : Condition} {payload : Payload}
    (needs : condition.Asks table field ∨ ∃ value, payload.get? field = some (.value value))
    (plan : Sql.Plan) : scope.planUpdate tableName condition payload ≠ .ok plan
  insert {payload : Payload} (isSet : ∃ value, payload.get? field = some (.value value))
    (explicitId : Option String) (freshId now : String) (plan : Sql.Plan) :
    scope.planInsert tableName payload explicitId freshId now ≠ .ok plan

/-- A field that is not stored is refused wherever its type is looked at. -/
theorem refuses_of_not_storable {type : SemanticType}
    (found : scope.lookupTable tableName = .ok table)
    (declared : table.fieldType? field = some type) (noColumn : ¬ type.isStorable) :
    scope.Refuses tableName table field type := by
  have notStored : ¬ table.HasColumn field := by
    rintro ⟨_, declaredAgain, storable⟩
    cases declared.symm.trans declaredAgain
    exact noColumn storable
  have notBuilt {condition : Condition} (asks : condition.Asks table field) (name : Option String)
      (predicates : List Sql.Expression) : condition.predicates table name ≠ .ok predicates :=
    fun built => notStored (Condition.hasColumn_of_asks built asks)
  have expression {condition : Condition} (asks : condition.Asks table field)
      (name : Option String) (expression : Sql.Expression) :
      condition.expression table name ≠ .ok expression := by
    intro built
    obtain ⟨predicates, areBuilt, -⟩ := map_eq_ok_iff.mp built
    exact notBuilt asks name predicates areBuilt
  constructor
  case entry =>
    rintro key reading only rfl name value
    cases only.isReading.declared.symm.trans declared
    exact Predicate.ofEntry_of_not_storable only noColumn value
  case value => exact writtenValue_of_not_storable declared noColumn
  case condition => exact notBuilt
  case select =>
    intro _ asks _ _ _ planned
    obtain ⟨_, _, foundAgain, built, -⟩ := planSelect_eq_ok_iff.mp planned
    cases found.symm.trans foundAgain
    exact expression asks _ _ built
  case delete =>
    intro _ asks _ planned
    obtain ⟨_, _, foundAgain, built, -⟩ := planDelete_eq_ok_iff.mp planned
    cases found.symm.trans foundAgain
    exact expression asks _ _ built
  case update =>
    intro _ payload needs _ planned
    obtain ⟨_, prepared, _, _, foundAgain, truncated, typed, -, built, -⟩ :=
      planUpdate_eq_ok_iff.mp planned
    cases found.symm.trans foundAgain
    rcases needs with asks | isSet
    · exact expression asks _ _ built
    · have mem := Payload.mem_keys_values_iff.mpr isSet
      rw [(Payload.truncates_of_prepareUpdate truncated).keys] at mem
      exact notStored (hasColumn_of_mem_keys typed mem)
  case insert =>
    rintro payload ⟨value, isSet⟩ _ _ _ _ planned
    obtain ⟨_, row, _, foundAgain, prepared, typed, -⟩ := planInsert_eq_ok_iff.mp planned
    cases found.symm.trans foundAgain
    have isDeclared : (table.fieldType? field).isSome := by
      rw [declared]
      rfl
    exact notStored (hasColumn_of_mem_keys typed
      (Payload.mem_keys_of_prepareInsert prepared isSet isDeclared))

end Scope

end CatalogSql
