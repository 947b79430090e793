import CatalogSql.Proofs.Planning.Update

/-!
# What an insertion keeps of what it is given

An insertion is refused for a text that is no date or for a value of the new row that does not
fit its field, whichever comes first. One that is not refused writes every set field of the
payload, except an identifier beside an explicit one; and it writes the explicit identifier, as it
is given, where the table declares a field for it.
-/

namespace CatalogSql

/-! ## The row as it is given -/

namespace Payload

variable {table : TypeInfo} {payload row : Payload} {explicitId : Option String}
  {freshId now field : String} {value : Json}

/-- The values of a new row as they are given: those its table keeps, with those of the payload
set over them. -/
def newValues (payload : Payload) (table : TypeInfo) (explicitId : Option String)
    (freshId now : String) : List (String × Json) :=
  Keyed.putAll (payload.givenValues explicitId) (keptValues table (explicitId.getD freshId) now)

/-- No field of a new row is given twice. -/
theorem nodup_keys_newValues (payload : Payload) (table : TypeInfo) (explicitId : Option String)
    (freshId now : String) : (Keyed.keys (payload.newValues table explicitId freshId now)).Nodup := by
  rw [newValues, Keyed.keys_putAll (nodup_keys_givenValues payload explicitId)]
  refine (nodup_keys_keptValues table _ now).append ?_ ?_
  · exact (nodup_keys_givenValues payload explicitId).filter _
  · exact fun key kept given => absurd kept (of_decide_eq_true (List.mem_filter.mp given).2)

/-- A value of a payload is set over the kept ones, unless it is an identifier beside an explicit
one. -/
theorem mem_givenValues (mem : (field, value) ∈ payload.values)
    (notExplicit : field = idField → explicitId = none) :
    (field, value) ∈ payload.givenValues explicitId := by
  refine List.mem_filter.mpr ⟨mem, ?_⟩
  by_cases isId : field = idField
  · simp [notExplicit isId]
  · simp [isId]

/-- A set field is given, unless it is an id beside an explicit one. -/
theorem mem_newValues (isSet : payload.get? field = some (.value value))
    (notExplicit : field = idField → explicitId = none) :
    (field, value) ∈ payload.newValues table explicitId freshId now :=
  Keyed.mem_putAll (nodup_keys_givenValues payload explicitId)
    (mem_givenValues (mem_values_iff.mpr isSet) notExplicit) _

/-- A set field of the payload is a field of the new row, with its value truncated. -/
theorem truncates_of_prepareInsert
    (isPrepared : payload.prepareInsert table explicitId freshId now = .ok row)
    (isSet : payload.get? field = some (.value value))
    (notExplicit : field = idField → explicitId = none) :
    ∃ stored, Truncates table field value stored ∧ (field, stored) ∈ row.values := by
  obtain ⟨prepared, truncated, values⟩ := values_of_prepareInsert isPrepared
  obtain ⟨⟨_, stored⟩, isPreparedValue, rfl, truncates⟩ :=
    (truncates_of_prepareUpdate truncated).exists_of_mem_left (mem_values_iff.mpr isSet)
  refine ⟨stored, truncates, ?_⟩
  rw [values]
  exact Keyed.mem_putAll (nodup_keys_givenValues prepared explicitId)
    (mem_givenValues isPreparedValue notExplicit) _

/-- An explicit identifier is a value of the new row, where the table declares its field. -/
theorem explicitId_of_prepareInsert {id : String} (declaresId : (table.fieldType? idField).isSome)
    (isPrepared : payload.prepareInsert table (some id) freshId now = .ok row) :
    (idField, .string id) ∈ row.values := by
  obtain ⟨prepared, -, values⟩ := values_of_prepareInsert isPrepared
  have notGiven : idField ∉ Keyed.keys (prepared.givenValues (some id)) := by
    rw [mem_keys_givenValues_iff]
    exact fun given => nomatch given.2 rfl
  have isKept : (idField, .string id) ∈ keptValues table id now :=
    List.mem_filter.mpr ⟨List.mem_cons_self, declaresId⟩
  refine Keyed.mem_of_lookup? ?_
  rw [values, Keyed.lookup?_putAll (nodup_keys_givenValues prepared _),
    (Keyed.lookup?_eq_none_iff _ _).mpr notGiven, Option.none_or]
  exact (Keyed.lookup?_eq_some_iff (nodup_keys_keptValues table id now) _ _).mpr isKept

end Payload

namespace Scope

open Payload (DateFault IsDated Truncates newValues)

variable {scope : Scope} {table : TypeInfo} {tableName field : String} {payload row : Payload}
  {explicitId : Option String} {freshId now : String} {value : Json} {error : RequestError}

/-! ## Refused insertions -/

/-- A value that is stored for another one has the same faults. -/
def SameFaults (table : TypeInfo) (field : String) (value stored : Json) : Prop :=
  ∀ error, FieldFault table (field, stored) error ↔ FieldFault table (field, value) error

/-- A new row has the faults of its values as they are given. -/
theorem firstFault_of_prepareInsert
    (isPrepared : payload.prepareInsert table explicitId freshId now = .ok row) :
    FirstFault (FieldFault table) row.values error ↔
      FirstFault (FieldFault table) (payload.newValues table explicitId freshId now) error := by
  obtain ⟨prepared, truncated, values⟩ := Payload.values_of_prepareInsert isPrepared
  have given : Keyed.Related (SameFaults table) (payload.givenValues explicitId)
      (prepared.givenValues explicitId) :=
    ((Payload.truncates_of_prepareUpdate truncated).filter
      fun field => !(field == idField && explicitId.isSome)).weaken
        fun _ _ _ truncates _ => fieldFault_of_truncates truncates
  have kept (entries : List (String × Json)) :
      Keyed.Related (SameFaults table) entries entries :=
    List.forall₂_same.mpr fun _ _ => ⟨rfl, fun _ => Iff.rfl⟩
  rw [values]
  refine (firstFault_congr (given.putAll (kept _)) ?_).symm
  rintro ⟨field, value⟩ ⟨_, stored⟩ ⟨rfl, same⟩ found
  exact (same found).symm

/-- Why an insertion is refused: the first text of the payload that is no date, or else the first
value of the new row that does not fit its field. -/
inductive RefusesInsert (table : TypeInfo) (payload : Payload) (explicitId : Option String)
    (freshId now : String) : RequestError → Prop where
  | date {error : RequestError} (first : FirstFault (DateFault table) payload.values error) :
      RefusesInsert table payload explicitId freshId now error
  | field {error : RequestError} (dated : ∀ entry ∈ payload.values, IsDated table entry)
      (first : FirstFault (FieldFault table)
        (payload.newValues table explicitId freshId now) error) :
      RefusesInsert table payload explicitId freshId now error

/-- Planning an insertion fails with the first of its faults. -/
theorem planInsert_eq_error_iff (found : scope.lookupTable tableName = .ok table) :
    scope.planInsert tableName payload explicitId freshId now = .error error ↔
      RefusesInsert table payload explicitId freshId now error := by
  have exists_row {prepared : Payload} (isPrepared : payload.prepareUpdate table = .ok prepared) :
      ∃ row, payload.prepareInsert table explicitId freshId now = .ok row :=
    ⟨_, bind_eq_ok_iff.mpr ⟨prepared, isPrepared, rfl⟩⟩
  rw [planInsert]
  constructor
  · intro failed
    obtain failed | ⟨_, foundAgain, failed⟩ := bind_eq_error_iff.mp failed
    · cases found.symm.trans failed
    cases found.symm.trans foundAgain
    obtain failed | ⟨row, isRow, failed⟩ := bind_eq_error_iff.mp failed
    · obtain failed | ⟨_, -, ⟨⟩⟩ := bind_eq_error_iff.mp failed
      exact .date (Payload.prepareUpdate_eq_error_iff.mp failed)
    obtain ⟨prepared, isPrepared, -⟩ := Payload.values_of_prepareInsert isRow
    obtain failed | ⟨_, -, ⟨⟩⟩ := bind_eq_error_iff.mp failed
    exact .field (Payload.exists_prepareUpdate_iff.mp ⟨prepared, isPrepared⟩)
      ((firstFault_of_prepareInsert isRow).mp (writtenValues_eq_error_iff.mp failed))
  · intro refuses
    refine bind_eq_error_iff.mpr (.inr ⟨table, found, bind_eq_error_iff.mpr ?_⟩)
    cases refuses with
    | date first =>
        exact .inl (bind_eq_error_iff.mpr (.inl (Payload.prepareUpdate_eq_error_iff.mpr first)))
    | field dated first =>
        obtain ⟨prepared, isPrepared⟩ := Payload.exists_prepareUpdate_iff.mpr dated
        obtain ⟨row, isRow⟩ := exists_row isPrepared
        refine .inr ⟨row, isRow, bind_eq_error_iff.mpr (.inl ?_)⟩
        exact writtenValues_eq_error_iff.mpr ((firstFault_of_prepareInsert isRow).mpr first)

/-- A set field that the table does not declare has an insertion refused, unless it is an
identifier beside an explicit one; and it names the error when nothing else is at fault. -/
theorem planInsert_of_undeclared (found : scope.lookupTable tableName = .ok table)
    (isSet : payload.get? field = some (.value value))
    (notExplicit : field = idField → explicitId = none) (undeclared : table.fieldType? field = none) :
    (∃ error, scope.planInsert tableName payload explicitId freshId now = .error error) ∧
      ((∀ entry ∈ payload.values, IsDated table entry) →
        (∀ entry ∈ payload.newValues table explicitId freshId now,
          entry.1 ≠ field → Fits table entry) →
        scope.planInsert tableName payload explicitId freshId now =
          .error (.lookup (.unknownField table.name field))) := by
  have mem : (field, value) ∈ payload.newValues table explicitId freshId now :=
    Payload.mem_newValues isSet notExplicit
  have faulty : FieldFault table (field, value) (.lookup (.unknownField table.name field)) :=
    .undeclared undeclared
  constructor
  · cases planned : scope.planInsert tableName payload explicitId freshId now with
    | error error => exact ⟨error, rfl⟩
    | ok plan =>
        obtain ⟨_, row, written, foundAgain, isRow, areWritten, -⟩ := planInsert_eq_ok_iff.mp planned
        cases found.symm.trans foundAgain
        obtain ⟨stored, truncates, isStored⟩ :=
          Payload.truncates_of_prepareInsert isRow isSet notExplicit
        have fits := exists_writtenValues_iff.mp ⟨_, areWritten⟩ _ isStored
        exact absurd ((fieldFault_of_truncates truncates).mpr faulty) (fits.not_fault _)
  · intro dated othersFit
    refine (planInsert_eq_error_iff found).mpr (.field dated ?_)
    refine firstFault_of_only mem faulty ?_
    rintro ⟨other, held⟩ isOther
    by_cases same : other = field
    · subst same
      have distinct := payload.nodup_keys_newValues table explicitId freshId now
      have sameValue := ((Keyed.lookup?_eq_some_iff distinct _ _).mpr isOther).symm.trans
        ((Keyed.lookup?_eq_some_iff distinct _ _).mpr mem)
      exact .inl (congrArg (Prod.mk other) (Option.some.inj sameValue))
    · exact .inr (othersFit _ isOther same).not_fault

/-! ## What is written -/

/-- What an insertion keeps of what it is given: the explicit identifier, where the table declares
a field for it, and every set field of the payload with what its type makes of its own value,
except an identifier beside an explicit one. -/
structure KeepsGiven (table : TypeInfo) (payload : Payload) (explicitId : Option String)
    (insertion : Sql.Insertion) : Prop where
  identifier : ∀ id, explicitId = some id → (table.fieldType? idField).isSome →
    ∃ type written, table.fieldType? idField = some type ∧
      (idField, written) ∈ insertion.columns.zip insertion.values ∧
      type.BindsText id written written.boundValues
  set : ∀ field value, payload.get? field = some (.value value) →
    (field = idField → explicitId = none) →
    ∃ type written, table.fieldType? field = some type ∧
      (field, written) ∈ insertion.columns.zip insertion.values ∧
      type.Assigns value written written.boundValues

/-- The values of a row are written each to the column of its field. -/
theorem keepsGiven_of_written {written : List (String × Sql.Expression)}
    {insertion : Sql.Insertion}
    (isPrepared : payload.prepareInsert table explicitId freshId now = .ok row)
    (areWritten : writtenValues table row.values = .ok written)
    (assigned : insertion.columns.zip insertion.values = written) :
    KeepsGiven table payload explicitId insertion := by
  have related := related_of_writtenValues areWritten
  constructor
  · rintro id rfl declaresId
    obtain ⟨⟨_, expression⟩, mem, rfl, isWritten⟩ :=
      related.exists_of_mem_left (Payload.explicitId_of_prepareInsert declaresId isPrepared)
    obtain ⟨type, declared, binds⟩ := bindsText_of_writtenValue isWritten
    exact ⟨type, expression, declared, assigned ▸ mem, binds⟩
  · intro field value isSet notExplicit
    obtain ⟨stored, truncates, isStored⟩ :=
      Payload.truncates_of_prepareInsert isPrepared isSet notExplicit
    obtain ⟨⟨_, expression⟩, mem, rfl, isWritten⟩ := related.exists_of_mem_left isStored
    obtain ⟨type, declared, assigns⟩ := assigns_of_writtenValue truncates isWritten
    exact ⟨type, expression, declared, assigned ▸ mem, assigns⟩

/-- What an insertion does with what it is given. One that is planned keeps it; one that is not is
refused for the first of its faults. A set field that the table does not declare, other than an
identifier beside an explicit one, has it refused, and names the error when nothing else is at
fault. -/
theorem insertion_keeps_given (found : scope.lookupTable tableName = .ok table) (payload : Payload)
    (explicitId : Option String) (freshId now : String) :
    let planned := scope.planInsert tableName payload explicitId freshId now
    (∀ plan, planned = .ok plan →
      ∃ insertion : Sql.Insertion, plan = ⟨table.name, .insertion insertion⟩ ∧
        insertion.columns.Nodup ∧ insertion.columns.length = insertion.values.length ∧
        KeepsGiven table payload explicitId insertion) ∧
      (∀ error, planned = .error error ↔
        RefusesInsert table payload explicitId freshId now error) ∧
      ∀ field value, payload.get? field = some (.value value) →
        (field = idField → explicitId = none) → table.fieldType? field = none →
        (∃ error, planned = .error error) ∧
          ((∀ entry ∈ payload.values, IsDated table entry) →
            (∀ entry ∈ payload.newValues table explicitId freshId now,
              entry.1 ≠ field → Fits table entry) →
            planned = .error (.lookup (.unknownField table.name field))) := by
  refine ⟨fun plan planned => ?_, fun error => planInsert_eq_error_iff found,
    fun field value => planInsert_of_undeclared found⟩
  obtain ⟨_, row, written, foundAgain, isPrepared, areWritten, rfl⟩ :=
    planInsert_eq_ok_iff.mp planned
  cases found.symm.trans foundAgain
  have sameKeys : Keyed.keys row.values = Keyed.keys written :=
    (related_of_writtenValues areWritten).keys
  refine ⟨_, rfl, sameKeys.subst row.nodup_keys_values, ?_,
    keepsGiven_of_written isPrepared areWritten ?_⟩
  · rw [List.length_map, List.length_map]
  · exact (List.zip_map' ..).trans (List.map_id _)

/-- A member with a name who is given an identifier: both are written, and the identifier of the
payload gives way. -/
theorem insertion_keeps_given_member :
    let member : TypeInfo := .table "Member" [("id", .id), ("name", .string)]
    let scope : Scope := ⟨⟨[("Member", member)], by decide +kernel⟩, "public"⟩
    let payload : Payload := (Payload.empty.set "id" (.string "own")).set "name" (.string "ada")
    scope.lookupTable "Member" = .ok member ∧
      ∃ insertion : Sql.Insertion,
        scope.planInsert "Member" payload (some "m1") "fresh" "2024-06-01T12:00:00" =
          .ok ⟨"Member", .insertion insertion⟩ ∧
        (∃ type written, member.fieldType? "id" = some type ∧
          ("id", written) ∈ insertion.columns.zip insertion.values ∧
          type.BindsText "m1" written written.boundValues) ∧
        ∃ type written, member.fieldType? "name" = some type ∧
          ("name", written) ∈ insertion.columns.zip insertion.values ∧
          type.Assigns (.string "ada") written written.boundValues := by
  intro member scope payload
  have found : scope.lookupTable "Member" = .ok member := rfl
  obtain ⟨keeps, -, -⟩ :=
    insertion_keeps_given found payload (some "m1") "fresh" "2024-06-01T12:00:00"
  obtain ⟨insertion, isPlan, -, -, identifier, set⟩ := keeps _ rfl
  refine ⟨found, insertion, congrArg Except.ok isPlan, identifier "m1" rfl rfl, ?_⟩
  exact set "name" (.string "ada") rfl (absurd · (by decide))

/-- A note, whose table declares no identifier, is inserted though an explicit one is given, and
nothing is bound for it. -/
theorem insertion_drops_undeclared_id :
    let note : TypeInfo := .table "Note" [("text", .string)]
    let scope : Scope := ⟨⟨[("Note", note)], by decide +kernel⟩, "public"⟩
    let payload : Payload := Payload.empty.set "text" (.string "hi")
    note.fieldType? idField = none ∧ ∀ freshId now,
      scope.planInsert "Note" payload (some "x1") freshId now =
        .ok ⟨"Note", .insertion ⟨"public", "Note", ["text"], [.constant (.string "hi")],
          [("text", .column (.plain "text"))]⟩⟩ :=
  ⟨rfl, fun _ _ => rfl⟩

end Scope

end CatalogSql
