import CatalogSql.Proofs.Calendar.ReadBack
import CatalogSql.Proofs.Planning.Written

/-!
# What an update is

An update is refused for the first of its faults: a text that is no date, a value that does not
fit its field, nothing to set, and a condition that is refused. An update without a fault sets
exactly the set fields of its payload, each to what its type makes of the given value.
-/

namespace CatalogSql

/-! ## Prepared payloads -/

namespace Payload

variable {table : TypeInfo} {field : String} {payload prepared : Payload} {error : RequestError}

/-- A text that is no date in a field of dates, and the error that names the text. -/
inductive DateFault (table : TypeInfo) : String × Json → RequestError → Prop where
  | intro {field text : String} (declared : table.fieldType? field = some .dateTime)
      (noDate : truncateToSeconds? text = none) :
      DateFault table (field, .string text) (.invalidDateTime text)

/-- A value is refused at truncation exactly if it is a faulty date. -/
theorem truncateInput_eq_error_iff {value : Json} :
    truncateInput table field (.value value) = .error error ↔
      DateFault table (field, value) error := by
  constructor
  · intro failed
    unfold truncateInput at failed
    split at failed
    · rename_i declared same
      cases same
      split at failed
      · cases failed
      · rename_i noDate
        cases failed
        exact .intro declared noDate
    · cases failed
  · rintro ⟨declared, noDate⟩
    simp only [truncateInput, declared, noDate]

/-- The values that inputs hold for their keys. -/
def valuesOf (entries : List (String × Input)) : List (String × Json) :=
  entries.filterMap fun entry => entry.2.value?.map fun value => (entry.1, value)

/-- Truncation fails at the first faulty date. -/
theorem truncateEntries_eq_error_iff {entries : List (String × Input)} :
    truncateEntries table entries = .error error ↔
      FirstFault (DateFault table) (valuesOf entries) error := by
  induction entries with
  | nil => exact iff_of_false (by rintro ⟨⟩) firstFault_nil
  | cons entry rest ih =>
      obtain ⟨field, input⟩ := entry
      cases input with
      | value value => exact steps_eq_error_iff (fun _ => truncateInput_eq_error_iff) ih
      | unset =>
          refine Iff.trans ?_ ih
          rw [truncateEntries, truncateInput_unset]
          cases truncateEntries table rest <;> simp [bind, Except.bind, pure, Except.pure]

/-- Preparing an update fails with the first text that is no date. -/
theorem prepareUpdate_eq_error_iff :
    payload.prepareUpdate table = .error error ↔
      FirstFault (DateFault table) payload.values error := by
  rw [prepareUpdate, map_eq_error_iff]
  exact truncateEntries_eq_error_iff

/-- A text that is given for a field of dates is a date. -/
def IsDated (table : TypeInfo) (entry : String × Json) : Prop :=
  ∀ text, entry.2 = .string text → table.fieldType? entry.1 = some .dateTime →
    ∃ stored, truncateToSeconds? text = some stored

/-- An entry has a proper date exactly if no fault can be found in it. -/
theorem isDated_iff {entry : String × Json} :
    IsDated table entry ↔ ∀ error, ¬ DateFault table entry error := by
  constructor
  · rintro dated _ ⟨declared, noDate⟩
    obtain ⟨stored, isStored⟩ := dated _ rfl declared
    cases noDate.symm.trans isStored
  · rintro noFault text isText declared
    obtain ⟨field, _⟩ := entry
    obtain rfl : _ = Json.string text := isText
    refine Option.ne_none_iff_exists'.mp fun noDate => ?_
    exact noFault _ (.intro declared noDate)

/-- An update is prepared exactly if all its dates are proper. -/
theorem exists_prepareUpdate_iff :
    (∃ prepared, payload.prepareUpdate table = .ok prepared) ↔
      ∀ entry ∈ payload.values, IsDated table entry := by
  rw [exists_ok_iff, forall_iff_not_firstFault fun _ => isDated_iff]
  simp only [ne_eq, prepareUpdate_eq_error_iff]

/-- What has been truncated is kept by truncating it again. -/
theorem truncateInput_of_truncated {input truncated : Input}
    (isTruncated : truncateInput table field input = .ok truncated) :
    truncateInput table field truncated = .ok truncated := by
  rw [truncateInput_eq_ok_iff] at isTruncated ⊢
  rcases isTruncated with ⟨text, stored, declared, -, isDate, rfl⟩ | ⟨noDate, rfl⟩
  · exact .inl ⟨stored, stored, declared, rfl, truncateToSeconds?_of_truncated isDate, rfl⟩
  · exact .inr ⟨noDate, rfl⟩

/-- Entries that are each kept are kept together. -/
theorem truncateEntries_of_kept {entries : List (String × Input)}
    (kept : ∀ entry ∈ entries, truncateInput table entry.1 entry.2 = .ok entry.2) :
    truncateEntries table entries = .ok entries := by
  induction entries with
  | nil => rfl
  | cons entry rest ih =>
      obtain ⟨keptEntry, keptRest⟩ := List.forall_mem_cons.mp kept
      exact truncateEntries_cons_eq_ok_iff.mpr ⟨_, _, keptEntry, ih keptRest, rfl⟩

/-- A prepared payload is kept by preparing it again. -/
theorem prepareUpdate_of_prepared (isPrepared : payload.prepareUpdate table = .ok prepared) :
    prepared.prepareUpdate table = .ok prepared := by
  have related := related_of_truncateEntries (entries_of_prepareUpdate isPrepared)
  have kept : truncateEntries table prepared.entries.entries = .ok prepared.entries.entries := by
    refine truncateEntries_of_kept fun entry mem => ?_
    obtain ⟨_, -, same, isTruncated⟩ := related.exists_of_mem_right mem
    rw [same] at isTruncated
    exact truncateInput_of_truncated isTruncated
  rw [prepareUpdate, kept]
  have entries := OrderedMap.entries_ofList prepared.entries.distinct
  exact congrArg (fun map => Except.ok (Payload.mk map)) (OrderedMap.ext entries)

end Payload

/-! ## Values in statements -/

namespace Sql

/-- The values an expression binds, from left to right. -/
def Expression.boundValues (expression : Expression) : List Param :=
  expression.constants.filterMap Constant.param?

/-- The values sent with a statement are those it binds. -/
theorem params_ofPieces (statement : Statement) :
    (Prepared.ofPieces statement.pieces).params = statement.boundValues :=
  (Prepared.empty.appendAll_eq statement.pieces).2.1.trans (binds_statement statement)

end Sql

/-- What a value of a field is written as, and the values bound for it: null and truth values
stand in the statement, a date is the second of its text and is cast, and every other value is
bound as it is, a number as an integer of 64 bits when it is one. -/
inductive SemanticType.Assigns : SemanticType → Json → Sql.Expression → List Sql.Param → Prop where
  | null {type : SemanticType} (storable : type.isStorable) :
      Assigns type .null (.constant .null) []
  | boolean (value : Bool) : Assigns .boolean (.boolean value) (.constant (.boolean value)) []
  | date {text stored : String} (isDate : truncateToSeconds? text = some stored) :
      Assigns .dateTime (.string text) (.cast (.constant (.string stored)) "timestamp")
        [.string stored]
  | text {type : SemanticType} (textual : type.isTextual) (text : String) :
      Assigns type (.string text) (.constant (.string text)) [.string text]
  | integer {number : JsonNumber} {value : Int64} (isInteger : number.int64? = some value) :
      Assigns .number (.number number) (.constant (.integer value)) [.integer value]
  | double {number : JsonNumber} (notInteger : number.int64? = none) :
      Assigns .number (.number number) (.constant (.double number.toDouble))
        [.double number.toDouble]
  | json {value : Json} (notNull : value ≠ .null) :
      Assigns .json value (.constant (.json value)) [.json value]

/-- What a value of a field is written as is determined by its type. -/
theorem SemanticType.Assigns.unique {type : SemanticType} {value : Json}
    {left right : Sql.Expression} {leftBound rightBound : List Sql.Param}
    (first : type.Assigns value left leftBound) (second : type.Assigns value right rightBound) :
    left = right := by
  cases first with
  | null =>
      cases second with
      | null => rfl
      | json notNull => exact absurd rfl notNull
  | boolean => cases second with | boolean => rfl
  | date isDate =>
      cases second with
      | date isDateAgain =>
          cases isDate.symm.trans isDateAgain
          rfl
      | text textual => cases textual
  | text textual =>
      cases second with
      | text => rfl
      | date | json => cases textual
  | integer isInteger =>
      cases second with
      | integer isIntegerAgain =>
          cases isInteger.symm.trans isIntegerAgain
          rfl
      | double notInteger => cases isInteger.symm.trans notInteger
  | double notInteger =>
      cases second with
      | integer isInteger => cases isInteger.symm.trans notInteger
      | double => rfl
  | json notNull =>
      cases second with
      | null => exact absurd rfl notNull
      | text textual => cases textual
      | json => rfl

/-- How a field of a type is written a text as it is, with the values bound for it: as a text,
cast in a field of dates, or as json. -/
inductive SemanticType.BindsText : SemanticType → String → Sql.Expression → List Sql.Param →
    Prop where
  | text {type : SemanticType} (textual : type.isTextual) (text : String) :
      BindsText type text (.constant (.string text)) [.string text]
  | date (text : String) :
      BindsText .dateTime text (.cast (.constant (.string text)) "timestamp") [.string text]
  | json (text : String) :
      BindsText .json text (.constant (.json (.string text))) [.json (.string text)]

/-- How a text is written as it is is determined by the type of its field. -/
theorem SemanticType.BindsText.unique {type : SemanticType} {text : String}
    {left right : Sql.Expression} {leftBound rightBound : List Sql.Param}
    (first : type.BindsText text left leftBound) (second : type.BindsText text right rightBound) :
    left = right := by
  cases first with
  | text textual =>
      cases second with
      | text => rfl
      | date | json => cases textual
  | date =>
      cases second with
      | text textual => cases textual
      | date => rfl
  | json =>
      cases second with
      | text textual => cases textual
      | json => rfl

namespace Scope

open Payload (DateFault IsDated Truncates)

variable {scope : Scope} {table : TypeInfo} {tableName field : String} {condition : Condition}
  {payload prepared : Payload} {error : RequestError}

/-- A truncated value is written as its type assigns it. -/
theorem assigns_of_writtenValue {value stored : Json} {written : Sql.Expression}
    (truncates : Truncates table field value stored)
    (isWritten : writtenValue table field stored = .ok written) :
    ∃ type, table.fieldType? field = some type ∧
      type.Assigns value written written.boundValues := by
  obtain ⟨type, typed, declared, accepted, rfl⟩ := writtenValue_eq_ok_iff.mp isWritten
  refine ⟨type, declared, ?_⟩
  cases truncates with
  | date isDateTime isDate =>
      cases isDateTime.symm.trans declared
      cases accepted
      exact .date isDate
  | other noDate =>
      cases TypedValue.types_of_ofJson accepted with
      | null => exact .null (TypedValue.isStorable_of_ofJson accepted)
      | id | string | enumeration => exact .text rfl _
      | dateTime text => exact absurd rfl (noDate text declared)
      | boolean value => exact .boolean value
      | integer isInteger => exact .integer isInteger
      | double notInteger => exact .double notInteger
      | json notNull => exact .json notNull

/-- A text that is written to a field is bound as it is. -/
theorem bindsText_of_writtenValue {text : String} {written : Sql.Expression}
    (isWritten : writtenValue table field (.string text) = .ok written) :
    ∃ type, table.fieldType? field = some type ∧ type.BindsText text written written.boundValues := by
  obtain ⟨type, typed, declared, accepted, rfl⟩ := writtenValue_eq_ok_iff.mp isWritten
  refine ⟨type, declared, ?_⟩
  cases type with
  | id | string | enumeration =>
      cases accepted
      exact .text rfl text
  | dateTime =>
      cases accepted
      exact .date text
  | json =>
      cases accepted
      exact .json text
  | number | boolean | relation | unknown => cases accepted

/-! ## Refused updates -/

/-- Truncating a value neither mends nor breaks it for its field. -/
theorem fieldFault_of_truncates {value stored : Json} (truncates : Truncates table field value stored) :
    FieldFault table (field, stored) error ↔ FieldFault table (field, value) error := by
  cases truncates with
  | other => exact Iff.rfl
  | date declared =>
      have fits (text : String) : Fits table (field, .string text) :=
        ⟨.dateTime, declared, .text (.inr rfl) text⟩
      exact iff_of_false ((fits _).not_fault error) ((fits _).not_fault error)

/-- The values of a prepared payload have the faults of the values given. -/
theorem firstFault_of_prepareUpdate (isPrepared : payload.prepareUpdate table = .ok prepared) :
    FirstFault (FieldFault table) prepared.values error ↔
      FirstFault (FieldFault table) payload.values error := by
  refine (firstFault_congr (Payload.truncates_of_prepareUpdate isPrepared) ?_).symm
  rintro ⟨field, value⟩ ⟨_, stored⟩ ⟨rfl, truncates⟩ found
  exact (fieldFault_of_truncates truncates).symm

/-- Truncation neither makes a value fit its field nor keeps it from fitting. -/
theorem fits_of_prepareUpdate (isPrepared : payload.prepareUpdate table = .ok prepared) :
    (∀ entry ∈ prepared.values, Fits table entry) ↔ ∀ entry ∈ payload.values, Fits table entry := by
  rw [forall_iff_not_firstFault fun _ => fits_iff, forall_iff_not_firstFault fun _ => fits_iff]
  simp only [firstFault_of_prepareUpdate isPrepared]

/-- Why an update is refused: its first text that is no date, or else the first value that does
not fit its field, or else that nothing is set, or else the condition. -/
inductive RefusesUpdate (table : TypeInfo) (condition : Condition) (payload : Payload) :
    RequestError → Prop where
  | date {error : RequestError} (first : FirstFault (DateFault table) payload.values error) :
      RefusesUpdate table condition payload error
  | field {error : RequestError} (dated : ∀ entry ∈ payload.values, IsDated table entry)
      (first : FirstFault (FieldFault table) payload.values error) :
      RefusesUpdate table condition payload error
  | empty (noValues : payload.values = []) :
      RefusesUpdate table condition payload (.emptyUpdate table.name)
  | condition {error : RequestError} (dated : ∀ entry ∈ payload.values, IsDated table entry)
      (fits : ∀ entry ∈ payload.values, Fits table entry) (someValues : payload.values ≠ [])
      (refused : condition.expression table none = .error error) :
      RefusesUpdate table condition payload error

/-- An update that is accepted: the texts for dates are dates, every value fits its field, some
field is set, and the condition gives an expression. -/
structure AcceptsUpdate (table : TypeInfo) (condition : Condition) (payload : Payload) : Prop where
  dated : ∀ entry ∈ payload.values, IsDated table entry
  fits : ∀ entry ∈ payload.values, Fits table entry
  someValues : payload.values ≠ []
  condition : ∃ expression, condition.expression table none = .ok expression

/-- Nothing is written where nothing is set. -/
theorem writtenValues_eq_nil_iff {written : List (String × Sql.Expression)}
    (isPrepared : payload.prepareUpdate table = .ok prepared)
    (areWritten : writtenValues table prepared.values = .ok written) :
    written = [] ↔ payload.values = [] := by
  have same := (Payload.truncates_of_prepareUpdate isPrepared).length_eq.trans
    (related_of_writtenValues areWritten).length_eq
  rw [← List.length_eq_zero_iff, ← List.length_eq_zero_iff, same]

/-- A payload of proper dates and fitting values is written. -/
theorem exists_written (dated : ∀ entry ∈ payload.values, IsDated table entry)
    (fits : ∀ entry ∈ payload.values, Fits table entry) :
    ∃ prepared written, payload.prepareUpdate table = .ok prepared ∧
      writtenValues table prepared.values = .ok written := by
  obtain ⟨prepared, isPrepared⟩ := Payload.exists_prepareUpdate_iff.mpr dated
  obtain ⟨written, areWritten⟩ :=
    exists_writtenValues_iff.mpr ((fits_of_prepareUpdate isPrepared).mpr fits)
  exact ⟨prepared, written, isPrepared, areWritten⟩

/-- Planning an update fails with the first of its faults. -/
theorem planUpdate_eq_error_iff (found : scope.lookupTable tableName = .ok table) :
    scope.planUpdate tableName condition payload = .error error ↔
      RefusesUpdate table condition payload error := by
  rw [planUpdate]
  constructor
  · intro failed
    obtain failed | ⟨_, foundAgain, failed⟩ := bind_eq_error_iff.mp failed
    · cases found.symm.trans failed
    cases found.symm.trans foundAgain
    obtain failed | ⟨prepared, isPrepared, failed⟩ := bind_eq_error_iff.mp failed
    · exact .date (Payload.prepareUpdate_eq_error_iff.mp failed)
    have dated := Payload.exists_prepareUpdate_iff.mp ⟨prepared, isPrepared⟩
    obtain failed | ⟨written, areWritten, failed⟩ := bind_eq_error_iff.mp failed
    · exact .field dated
        ((firstFault_of_prepareUpdate isPrepared).mp (writtenValues_eq_error_iff.mp failed))
    have fits := (fits_of_prepareUpdate isPrepared).mp (exists_writtenValues_iff.mp ⟨_, areWritten⟩)
    split at failed
    · rename_i isEmpty
      cases failed
      exact .empty ((writtenValues_eq_nil_iff isPrepared areWritten).mp (List.isEmpty_iff.mp isEmpty))
    · rename_i notEmpty
      rw [List.isEmpty_iff, writtenValues_eq_nil_iff isPrepared areWritten] at notEmpty
      obtain refused | ⟨_, -, ⟨⟩⟩ := bind_eq_error_iff.mp failed
      exact .condition dated fits notEmpty refused
  · intro refuses
    refine bind_eq_error_iff.mpr (.inr ⟨table, found, bind_eq_error_iff.mpr ?_⟩)
    cases refuses with
    | date first => exact .inl (Payload.prepareUpdate_eq_error_iff.mpr first)
    | field dated first =>
        obtain ⟨prepared, isPrepared⟩ := Payload.exists_prepareUpdate_iff.mpr dated
        refine .inr ⟨prepared, isPrepared, bind_eq_error_iff.mpr (.inl ?_)⟩
        exact writtenValues_eq_error_iff.mpr ((firstFault_of_prepareUpdate isPrepared).mpr first)
    | empty noValues =>
        -- An update without values passes the checks of its dates and fields.
        have nothing (good : String × Json → Prop) : ∀ entry ∈ payload.values, good entry := by
          rw [noValues]
          exact List.forall_mem_nil _
        obtain ⟨prepared, written, isPrepared, areWritten⟩ :=
          exists_written (nothing (IsDated table)) (nothing (Fits table))
        obtain rfl := (writtenValues_eq_nil_iff isPrepared areWritten).mpr noValues
        exact .inr ⟨prepared, isPrepared, bind_eq_error_iff.mpr (.inr ⟨[], areWritten, rfl⟩)⟩
    | condition dated fits someValues refused =>
        obtain ⟨prepared, written, isPrepared, areWritten⟩ := exists_written dated fits
        refine .inr ⟨prepared, isPrepared, bind_eq_error_iff.mpr (.inr ⟨written, areWritten, ?_⟩)⟩
        have notEmpty : ¬ written.isEmpty := by
          rwa [List.isEmpty_iff, writtenValues_eq_nil_iff isPrepared areWritten]
        rw [if_neg notEmpty]
        exact bind_eq_error_iff.mpr (.inl refused)

/-- An update is planned when it is accepted. -/
theorem exists_planUpdate_iff (found : scope.lookupTable tableName = .ok table) :
    (∃ plan, scope.planUpdate tableName condition payload = .ok plan) ↔
      AcceptsUpdate table condition payload := by
  constructor
  · rintro ⟨plan, planned⟩
    obtain ⟨_, prepared, written, expression, foundAgain, isPrepared, areWritten, notEmpty, built, -⟩ :=
      planUpdate_eq_ok_iff.mp planned
    cases found.symm.trans foundAgain
    exact ⟨Payload.exists_prepareUpdate_iff.mp ⟨_, isPrepared⟩,
      (fits_of_prepareUpdate isPrepared).mp (exists_writtenValues_iff.mp ⟨_, areWritten⟩),
      (writtenValues_eq_nil_iff isPrepared areWritten).not.mp notEmpty, expression, built⟩
  · rintro ⟨dated, fits, someValues, expression, built⟩
    obtain ⟨prepared, written, isPrepared, areWritten⟩ := exists_written dated fits
    exact ⟨_, planUpdate_eq_ok_iff.mpr ⟨table, prepared, written, expression, found, isPrepared,
      areWritten, (writtenValues_eq_nil_iff isPrepared areWritten).not.mpr someValues, built, rfl⟩⟩

/-! ## The statement -/

/-- The returned columns bind no values. -/
theorem entryConstants_returning (table : TypeInfo) :
    Sql.entryConstants (Projection.returning table) = [] := by
  rw [Sql.entryConstants_eq_flatMap, List.flatMap_eq_nil_iff]
  intro returned mem
  obtain ⟨field, -, rfl⟩ := List.mem_map.mp mem
  rfl

/-- An update binds the values of its assignments and then those of its condition. -/
theorem boundValues_update {change : Sql.Update}
    (isReturned : change.returning = Projection.returning table) :
    (Sql.Statement.update change).boundValues =
      change.assignments.flatMap (·.2.boundValues) ++ change.condition.boundValues := by
  obtain ⟨schema, name, assignments, condition, returning⟩ := change
  obtain rfl : returning = Projection.returning table := isReturned
  rw [Sql.Statement.boundValues, Sql.Statement.constants, Sql.Update.constants,
    entryConstants_returning, List.append_nil, Sql.entryConstants_eq_flatMap,
    List.filterMap_append, List.filterMap_flatMap]
  rfl

/-- The read of the rows that an update returns binds the values of the update. -/
theorem boundValues_wrapped_update (change : Sql.Update) :
    (Sql.Statement.update change).wrapped.boundValues =
      (Sql.Statement.update change).boundValues := by
  simp [Sql.Statement.boundValues, Sql.Statement.wrapped, Sql.Mutation.asJsonRows,
    Sql.Select.ofColumns, Sql.Statement.constants, Sql.Select.constants, Sql.sharedConstants,
    Sql.Mutation.constants, Sql.entryConstants, Sql.Expression.constants, Sql.sourceConstants,
    Sql.Source.constants, Sql.joinConstants, Sql.orderingConstants, Sql.Expression.always,
    Sql.Constant.param?]

/-- What an update does. It is planned when it is accepted, and refused for the first of its faults
otherwise. A planned update sets the set fields of the payload in order, each once and each to what
its type makes of the value, where its condition holds; it binds the values of what is set and then
those of the condition, and returns the fields with a column. Preparing a payload again changes
nothing. -/
theorem update_of_planUpdate (found : scope.lookupTable tableName = .ok table) :
    ((∃ plan, scope.planUpdate tableName condition payload = .ok plan) ↔
        AcceptsUpdate table condition payload) ∧
      (∀ error, scope.planUpdate tableName condition payload = .error error ↔
        RefusesUpdate table condition payload error) ∧
      (∀ plan, scope.planUpdate tableName condition payload = .ok plan →
        ∃ change : Sql.Update, plan = ⟨table.name, .update change⟩ ∧
          change.schema = scope.schema ∧ change.table = table.name ∧
          Keyed.keys change.assignments = Keyed.keys payload.values ∧
          (Keyed.keys change.assignments).Nodup ∧
          Keyed.Related (fun field value written => ∃ type, table.fieldType? field = some type ∧
            type.Assigns value written written.boundValues) payload.values change.assignments ∧
          condition.expression table none = .ok change.condition ∧
          plan.raw.params =
            change.assignments.flatMap (·.2.boundValues) ++ change.condition.boundValues ∧
          plan.query.params = plan.raw.params ∧
          change.returning =
            table.storableFields.map fun field => (field.1, .column (.plain field.1))) ∧
      ∀ prepared, payload.prepareUpdate table = .ok prepared →
        prepared.prepareUpdate table = .ok prepared := by
  refine ⟨exists_planUpdate_iff found, fun error => planUpdate_eq_error_iff found,
    fun plan planned => ?_, fun prepared => Payload.prepareUpdate_of_prepared⟩
  obtain ⟨_, prepared, written, expression, foundAgain, isPrepared, areWritten, -, built, rfl⟩ :=
    planUpdate_eq_ok_iff.mp planned
  cases found.symm.trans foundAgain
  have truncates := Payload.truncates_of_prepareUpdate isPrepared
  have related := related_of_writtenValues areWritten
  have keys := truncates.keys.trans related.keys
  have assigned := (truncates.comp related).weaken fun _ _ _ ⟨_, truncates, isWritten⟩ =>
    assigns_of_writtenValue truncates isWritten
  refine ⟨_, rfl, rfl, rfl, keys.symm, keys ▸ payload.nodup_keys_values, assigned, built, ?_, ?_,
    List.map_map⟩
  · exact (Sql.params_ofPieces _).trans (boundValues_update rfl)
  · exact (Sql.params_ofPieces _).trans
      ((boundValues_wrapped_update _).trans (Sql.params_ofPieces _).symm)

/-- A user who gets a date and loses a name, among those with the name before. -/
theorem update_of_planUpdate_user :
    let user : TypeInfo := .table "User"
      [("id", .id), ("name", .string), ("seenAt", .dateTime), ("posts", .relation)]
    let scope : Scope := ⟨⟨[("User", user)], by decide +kernel⟩, "public"⟩
    let condition : Condition := Condition.empty.set "name" (.string "ada")
    let payload : Payload := ((Payload.empty.set "seenAt"
      (.string "2024-03-05T06:07:08.9+01:00")).insert "id" .unset).set "name" .null
    scope.lookupTable "User" = .ok user ∧
      ∃ change : Sql.Update,
        scope.planUpdate "User" condition payload = .ok ⟨"User", .update change⟩ ∧
        Keyed.keys change.assignments = ["seenAt", "name"] ∧
        condition.expression user none = .ok change.condition ∧
        change.returning.map (·.1) = ["id", "name", "seenAt"] := by
  intro user scope condition payload
  have found : scope.lookupTable "User" = .ok user := rfl
  have isPlanned : (scope.planUpdate "User" condition payload).toOption.isSome := by
    decide +kernel
  refine ⟨found, ?_⟩
  cases planned : scope.planUpdate "User" condition payload with
  | error error =>
      rw [planned] at isPlanned
      cases isPlanned
  | ok plan =>
      obtain ⟨-, -, shape, -⟩ := @update_of_planUpdate scope user "User" condition payload found
      obtain ⟨change, rfl, -, -, keys, -, -, built, -, -, returning⟩ := shape plan planned
      refine ⟨change, rfl, keys, built, ?_⟩
      rw [returning]
      rfl

/-- A truth value stands in the statement of an update and is not among the values sent with it. -/
theorem update_writes_boolean :
    let user : TypeInfo := .table "User" [("active", .boolean)]
    let scope : Scope := ⟨⟨[("User", user)], by decide +kernel⟩, "public"⟩
    let payload : Payload := Payload.empty.set "active" (.boolean true)
    ∃ plan, scope.planUpdate "User" .empty payload = .ok plan ∧
      plan.statement = .update ⟨"public", "User", [("active", .constant (.boolean true))], .always,
        [("active", .column (.plain "active"))]⟩ ∧
      plan.raw.params = [] ∧ plan.query.params = [] :=
  ⟨_, rfl, rfl, rfl, rfl⟩

end Scope

end CatalogSql
