import CatalogSql.Proofs.Planning.Update

/-!
# What an insertion writes

Planning an insertion writes every field of the new row to its own column: the texts that are
added as they are, and each value of the payload as the type of its field has it.
-/

namespace CatalogSql

namespace Payload

variable {table : TypeInfo} {payload : Payload} {explicitId : Option String} {freshId now : String}
  {field : String} {written : Sql.Expression}

/-- What is written to a field of a new row. An explicit identifier goes before one in the
payload, and what the payload sets goes before a fresh identifier and the current time. -/
inductive Writes (table : TypeInfo) (payload : Payload) (explicitId : Option String)
    (freshId now : String) : String → Sql.Expression → Prop where
  | explicitId {id : String} {type : SemanticType} {written : Sql.Expression}
      (given : explicitId = some id) (declared : table.fieldType? idField = some type)
      (binds : type.BindsText id written written.boundValues) :
      Writes table payload explicitId freshId now idField written
  | set {field : String} {value : Json} {type : SemanticType} {written : Sql.Expression}
      (notExplicit : field = idField → explicitId = none)
      (isSet : payload.get? field = some (.value value))
      (declared : table.fieldType? field = some type)
      (assigns : type.Assigns value written written.boundValues) :
      Writes table payload explicitId freshId now field written
  | freshId {type : SemanticType} {written : Sql.Expression} (notExplicit : explicitId = none)
      (unset : ∀ value, payload.get? idField ≠ some (.value value))
      (declared : table.fieldType? idField = some type)
      (binds : type.BindsText freshId written written.boundValues) :
      Writes table payload explicitId freshId now idField written
  | now {field : String} {type : SemanticType} {written : Sql.Expression}
      (isTime : field = createdField ∨ field = updatedField)
      (unset : ∀ value, payload.get? field ≠ some (.value value))
      (declared : table.fieldType? field = some type)
      (binds : type.BindsText now written written.boundValues) :
      Writes table payload explicitId freshId now field written

/-- What fills a field is written to its column. -/
theorem Fills.writes {stored : Json}
    (fills : Fills table payload explicitId freshId now field stored)
    (isWritten : Scope.writtenValue table field stored = .ok written) :
    Writes table payload explicitId freshId now field written := by
  cases fills with
  | explicitId given =>
      obtain ⟨type, declared, binds⟩ := Scope.bindsText_of_writtenValue isWritten
      exact .explicitId given declared binds
  | set notExplicit isSet truncates =>
      obtain ⟨type, declared, assigns⟩ := Scope.assigns_of_writtenValue truncates isWritten
      exact .set notExplicit isSet declared assigns
  | freshId notExplicit unset =>
      obtain ⟨type, declared, binds⟩ := Scope.bindsText_of_writtenValue isWritten
      exact .freshId notExplicit unset declared binds
  | now isTime unset =>
      obtain ⟨type, declared, binds⟩ := Scope.bindsText_of_writtenValue isWritten
      exact .now isTime unset declared binds

/-- What is written to a field of a new row is determined by the request. -/
theorem Writes.unique {other : Sql.Expression}
    (first : Writes table payload explicitId freshId now field written)
    (second : Writes table payload explicitId freshId now field other) : written = other := by
  have ofType {type typeAgain : SemanticType} (declared : table.fieldType? field = some type)
      (declaredAgain : table.fieldType? field = some typeAgain) : typeAgain = type :=
    Option.some.inj (declaredAgain.symm.trans declared)
  cases first with
  | explicitId given declared binds =>
      cases second with
      | explicitId givenAgain declaredAgain bindsAgain =>
          cases given.symm.trans givenAgain
          exact binds.unique (ofType declared declaredAgain ▸ bindsAgain)
      | set notExplicit => cases given.symm.trans (notExplicit rfl)
      | freshId notExplicit => cases given.symm.trans notExplicit
      | now isTime => exact absurd isTime (by decide)
  | set notExplicit isSet declared assigns =>
      cases second with
      | explicitId given => cases given.symm.trans (notExplicit rfl)
      | set _ isSetAgain declaredAgain assignsAgain =>
          cases isSet.symm.trans isSetAgain
          exact assigns.unique (ofType declared declaredAgain ▸ assignsAgain)
      | freshId _ unset => exact absurd isSet (unset _)
      | now _ unset => exact absurd isSet (unset _)
  | freshId notExplicit unset declared binds =>
      cases second with
      | explicitId given => cases given.symm.trans notExplicit
      | set _ isSet => exact absurd isSet (unset _)
      | freshId _ _ declaredAgain bindsAgain =>
          exact binds.unique (ofType declared declaredAgain ▸ bindsAgain)
      | now isTime => exact absurd isTime (by decide)
  | now isTime unset declared binds =>
      cases second with
      | explicitId | freshId => exact absurd isTime (by decide)
      | set _ isSet => exact absurd isSet (unset _)
      | now _ _ declaredAgain bindsAgain =>
          exact binds.unique (ofType declared declaredAgain ▸ bindsAgain)

/-- What may be written to a date: null, or a text of whole seconds that is its own
truncation. -/
def WritesSecond (written : Sql.Expression) : Prop :=
  written = .constant .null ∨
    ∃ text, written = .cast (.constant (.string text)) "timestamp" ∧
      truncateToSeconds? text = some text

/-- A date of a new row is null or on a whole second, unless it is an explicit or a fresh
identifier, which is written as it is. -/
theorem Writes.writesSecond {moment : DateTime}
    (writes : Writes table payload explicitId freshId moment.storedText field written)
    (isDate : table.fieldType? field = some .dateTime) (notId : field ≠ idField) :
    WritesSecond written := by
  cases writes with
  | explicitId => exact absurd rfl notId
  | freshId => exact absurd rfl notId
  | set _ _ declared assigns =>
      cases isDate.symm.trans declared
      generalize written.boundValues = bound at assigns
      cases assigns with
      | null => exact .inl rfl
      | date truncated => exact .inr ⟨_, rfl, truncateToSeconds?_of_truncated truncated⟩
      | text textual => cases textual
  | now _ _ declared binds =>
      cases isDate.symm.trans declared
      generalize written.boundValues = bound at binds
      cases binds with
      | date => exact .inr ⟨_, rfl, truncateToSeconds?_storedText moment⟩
      | text textual => cases textual

end Payload

namespace Scope

variable {scope : Scope} {table : TypeInfo} {tableName : String} {payload : Payload}
  {explicitId : Option String} {freshId : String}

/-- An insertion into a table with identifiers writes the kept fields of the table and then the
set fields of the payload, each to its own column, and returns the fields with a column. -/
theorem insertion_of_planInsert {moment : DateTime} {plan : Sql.Plan}
    (declaresId : (table.fieldType? idField).isSome)
    (found : scope.lookupTable tableName = .ok table)
    (planned : scope.planInsert tableName payload explicitId freshId moment.storedText = .ok plan) :
    ∃ insertion : Sql.Insertion, plan = ⟨table.name, .insertion insertion⟩ ∧
      insertion.schema = scope.schema ∧ insertion.table = table.name ∧
      insertion.columns = payload.insertedFields table ∧ insertion.columns.Nodup ∧
      insertion.columns.length = insertion.values.length ∧
      List.Forall₂ (payload.Writes table explicitId freshId moment.storedText)
        insertion.columns insertion.values ∧
      List.Forall₂ (fun field written => table.fieldType? field = some .dateTime →
        field ≠ idField → Payload.WritesSecond written) insertion.columns insertion.values ∧
      insertion.returning =
        table.storableFields.map fun field => (field.1, .column (.plain field.1)) := by
  obtain ⟨_, row, written, foundAgain, prepared, typed, rfl⟩ := planInsert_eq_ok_iff.mp planned
  cases found.symm.trans foundAgain
  have related := related_of_writtenValues typed
  have columns : Keyed.keys written = payload.insertedFields table :=
    related.keys.symm.trans (Payload.keys_of_prepareInsert declaresId prepared)
  have distinct : (Keyed.keys written).Nodup := related.keys ▸ row.nodup_keys_values
  have writes : List.Forall₂ (payload.Writes table explicitId freshId moment.storedText)
      (written.map (·.1)) (written.map (·.2)) := by
    rw [List.forall₂_map_left_iff, List.forall₂_map_right_iff, List.forall₂_same]
    intro entry mem
    obtain ⟨⟨_, stored⟩, held, rfl, isWritten⟩ := related.exists_of_mem_right mem
    exact (Payload.fills_of_prepareInsert prepared held).writes isWritten
  refine ⟨_, rfl, rfl, rfl, columns, distinct, ?_, writes, ?_, ?_⟩
  · rw [List.length_map, List.length_map]
  · exact writes.imp fun _ _ writes => writes.writesSecond
  · exact List.map_map

/-- A user whose payload sets the time of creation and leaves the name open: the identifier is
fresh, the time of the last change is the current one, and the relation gets no column. -/
theorem insertion_of_planInsert_user :
    let user : TypeInfo := .table "User"
      [("email", .string), ("createdAt", .dateTime), ("updatedAt", .dateTime),
        ("posts", .relation), ("id", .id), ("name", .string)]
    let scope : Scope := ⟨⟨[("User", user)], by decide +kernel⟩, "public"⟩
    let payload : Payload := ((Payload.empty.set "email" (.string "a@b.c")).insert "name"
      .unset).set "createdAt" (.string "2024-03-05T06:07:08.9+01:00")
    let moment : DateTime := ⟨⟨2024, 6, 1, by decide⟩, 12, 0, 0, 0, by decide⟩
    (user.fieldType? idField).isSome ∧ scope.lookupTable "User" = .ok user ∧
      ∃ insertion : Sql.Insertion,
        scope.planInsert "User" payload none "u1" moment.storedText =
          .ok ⟨"User", .insertion insertion⟩ ∧
        insertion.columns = ["id", "createdAt", "updatedAt", "email"] ∧
        insertion.values = [.constant (.string "u1"),
          .cast (.constant (.string "2024-03-05T06:07:08")) "timestamp",
          .cast (.constant (.string "2024-06-01T12:00:00")) "timestamp",
          .constant (.string "a@b.c")] ∧
        List.Forall₂ (payload.Writes user none "u1" moment.storedText)
          insertion.columns insertion.values ∧
        insertion.returning.map (·.1) = ["email", "createdAt", "updatedAt", "id", "name"] := by
  intro user scope payload moment
  have declaresId : (user.fieldType? idField).isSome := rfl
  have found : scope.lookupTable "User" = .ok user := rfl
  have isPlanned : (scope.planInsert "User" payload none "u1" moment.storedText).toOption.isSome := by
    decide +kernel
  refine ⟨declaresId, found, ?_⟩
  cases planned : scope.planInsert "User" payload none "u1" moment.storedText with
  | error error =>
      rw [planned] at isPlanned
      cases isPlanned
  | ok plan =>
      obtain ⟨insertion, rfl, -, -, columns, -, -, writes, -, returning⟩ :=
        insertion_of_planInsert declaresId found planned
      have expected : List.Forall₂ (payload.Writes user none "u1" moment.storedText)
          (payload.insertedFields user) [.constant (.string "u1"),
            .cast (.constant (.string "2024-03-05T06:07:08")) "timestamp",
            .cast (.constant (.string moment.storedText)) "timestamp",
            .constant (.string "a@b.c")] :=
        .cons (.freshId rfl nofun rfl (.text rfl "u1")) <|
          .cons (.set (absurd · (by decide)) rfl rfl (.date (by decide +kernel))) <|
          .cons (.now (.inr rfl) nofun rfl (.date _)) <|
          .cons (.set (absurd · (by decide)) rfl rfl (.text rfl "a@b.c")) .nil
      -- The values are not computed: what is written to each column is determined.
      have determined : Relator.RightUnique (payload.Writes user none "u1" moment.storedText) :=
        fun _ _ _ => Payload.Writes.unique
      have values := List.right_unique_forall₂' determined (columns ▸ writes) expected
      have current : moment.storedText = "2024-06-01T12:00:00" := by decide +kernel
      refine ⟨insertion, rfl, columns, current ▸ values, writes, ?_⟩
      rw [returning]
      rfl

end Scope

end CatalogSql
