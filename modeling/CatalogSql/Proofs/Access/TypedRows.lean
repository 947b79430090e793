import CatalogSql.Access.Row
import CatalogSql.Generated.Source
import CatalogSql.Proofs.Calendar.Projected
import CatalogSql.Proofs.Generated.Naming
import CatalogSql.Proofs.Planning.Filtering
import CatalogSql.Proofs.Planning.Statements
import Mathlib.Data.List.Perm.Basic

/-!
# Typed rows fit their tables

The generated row struct of a table declares a member for each stored field, with the type of
the values that a row holds there. Planning reads each of these values as one of the field's
type. So a row that is written can only lack a value or hold a text that is no date, and a row
taken as a condition asks one equality of each value it holds.
-/

namespace CatalogSql

/-! ## The members of a row struct -/

namespace Generated

open Token (code inRound inCurly within)

/-- The name that a member is renamed to at the front of tokens. -/
def renamed? : List Token → Option String
  | .plain "rename" :: .plain "=" :: .text name :: _ => some name
  | _ => none

/-- The names that members are renamed to, in the order of their declaration. -/
def renames : List Token → List String
  | [] => []
  | token :: rest => (renamed? (token :: rest)).toList ++ renames rest

/-- A type of values under the words that generated code has for it. -/
inductive Spells : String → Type → Prop where
  | number : Spells "f64" Double
  | boolean : Spells "bool" Bool
  | text : Spells ":: std :: string :: String" String
  | json : Spells ":: schema_bridge :: __reexports :: serde_json :: Value" Json

/-- A text that says nothing of renaming renames no field. -/
theorem renames_append {front : List Token} (absent : .plain "rename" ∉ front)
    (rest : List Token) : renames (front ++ rest) = renames rest := by
  induction front with
  | nil => rfl
  | cons token others ih =>
      rw [List.mem_cons, not_or] at absent
      have notRenamed : renamed? (token :: (others ++ rest)) = none := by
        unfold renamed?
        split
        · rename_i same
          exact absurd (List.cons.inj same).1.symm absent.1
        · rfl
      rw [List.cons_append, renames, notRenamed, ih absent.2]
      rfl

/-- The plain tokens of a fixed text are its words. -/
theorem plain_mem_code {fixed word : String} (mem : .plain word ∈ code fixed) :
    word.toList ∈ fixed.toList.splitOn ' ' := by
  obtain ⟨found, isWord, same⟩ := List.mem_map.mp mem
  unfold Token.ofWord at same
  repeat' split at same
  all_goals cases same
  rwa [String.toList_ofList]

/-- A `rename` names the field it is followed by. -/
theorem renames_renamed (name : String) (rest : List Token) :
    renames (.plain "rename" :: .plain "=" :: .text name :: rest) = name :: renames rest := by
  simp [renames, renamed?]

/-- A member of a row is renamed to its field. -/
theorem renames_memberItem (member : Member) (rest : List Token) :
    renames (memberItem member ++ rest) = member.field :: renames rest := by
  have word : code "rename =" = [.plain "rename", .plain "="] := by decide +kernel
  have opening : .plain "rename" ∉ code "# [ serde" ++ [.opening .round] := by decide +kernel
  have others : ∀ fixed ∈ [", default , skip_serializing_if =", "] pub",
      ": :: core :: option :: Option <", "> ,"], .plain "rename" ∉ code fixed := by decide +kernel
  have typeAbsent : .plain "rename" ∉ memberType member.type := by
    cases member.type <;> decide +kernel
  have shape : memberItem member ++ rest = (code "# [ serde" ++ [.opening .round]) ++
      .plain "rename" :: .plain "=" :: .text member.field ::
        ((code ", default , skip_serializing_if =" ++
          ([.text "::core::option::Option::is_none", .closing .round] ++ (code "] pub" ++
            .name member.identifier :: (code ": :: core :: option :: Option <" ++
              (memberType member.type ++ code "> ,"))))) ++ rest) := by
    simp [memberItem, inRound, within, word]
  rw [shape, renames_append opening, renames_renamed, renames_append]
  simp only [List.forall_mem_cons] at others
  obtain ⟨skipped, visible, optional, closing, -⟩ := others
  simp [skipped, visible, optional, typeAbsent, closing]

/-- The members of a row struct are renamed to the fields they stand for. -/
theorem renames_rowStruct (names : TableNames) :
    renames (rowStruct names) = names.members.map (·.field) := by
  have members : ∀ (members : List Member) (rest : List Token),
      renames (members.flatMap memberItem ++ rest) = members.map (·.field) ++ renames rest := by
    intro members rest
    induction members with
    | nil => rfl
    | cons member others ih =>
        rw [List.flatMap_cons, List.append_assoc, renames_memberItem, ih]
        rfl
  have derived : .plain "rename" ∉ code ("# [ derive ( Debug , Clone , Default , PartialEq , " ++
      ":: schema_bridge :: __reexports :: serde :: Serialize , " ++
      ":: schema_bridge :: __reexports :: serde :: Deserialize , ) ] # [ serde") := by
    refine fun mem => absurd (plain_mem_code mem) ?_
    simp only [String.toList_append, String.reduceToList]
    decide +kernel
  rw [rowStruct, renames_append derived, renames_append (by decide +kernel),
    renames_append (by decide +kernel)]
  change renames ([.name names.record, .opening .curly] ++
    (names.members.flatMap memberItem ++ [.closing .curly])) = _
  rw [renames_append (by simp), members]
  exact List.append_nil _

end Generated

/-! ## The values of a row -/

namespace RowValue

/-- What planning reads a value as. -/
def typed : (type : SemanticType) → RowValue type → TypedValue
  | .number, (value : Double) => if value.isFinite then .double value else .null
  | .boolean, (value : Bool) => .boolean value
  | .id, (value : String) => .id value
  | .string, (value : String) => .string value
  | .enumeration, (value : String) => .enumeration value
  | .dateTime, (value : String) => .dateTime value
  | .json, (value : Json) | .relation, (value : Json) | .unknown, (value : Json) =>
      match value with
      | .null => .null
      | given => .json given

/-- Planning reads every value of a row in a field with a column. -/
theorem ofJson_toJson (table field : String) {type : SemanticType} (storable : type.isStorable)
    (value : RowValue type) :
    TypedValue.ofJson table field type (toJson type value) = .ok (typed type value) := by
  cases type with
  | relation | unknown => cases storable
  | id | string | enumeration | dateTime | boolean => rfl
  | json => cases value <;> rfl
  | number =>
      by_cases finite : Double.isFinite value
      · simp [toJson, typed, finite, TypedValue.ofJson, TypedValue.ofNumber, JsonNumber.int64?,
          JsonNumber.toDouble]
      · simp [toJson, typed, finite, TypedValue.ofJson]

end RowValue

/-- A value that a row may hold in a field of a table. -/
def TypeInfo.Stores (table : TypeInfo) (entry : String × Json) : Prop :=
  ∃ type, ∃ value : RowValue type, type.isStorable ∧ table.fieldType? entry.1 = some type ∧
    entry.2 = RowValue.toJson type value

namespace Row

variable {table : TypeInfo}

/-- The entries of a row encode values of its fields. -/
theorem mem_entries {fields : List (String × SemanticType)} {row : Row fields}
    {entry : String × Json} (mem : entry ∈ entries fields row) :
    ∃ type, ∃ value : RowValue type, (entry.1, type) ∈ fields ∧
      entry.2 = RowValue.toJson type value := by
  induction fields with
  | nil => cases mem
  | cons field rest ih =>
      obtain ⟨name, type⟩ := field
      obtain ⟨_ | value, others⟩ := row
      · obtain ⟨type, value, declared, isValue⟩ := ih mem
        exact ⟨type, value, List.mem_cons_of_mem _ declared, isValue⟩
      · rcases List.mem_cons.mp mem with rfl | inRest
        · exact ⟨type, value, List.mem_cons_self, rfl⟩
        · obtain ⟨type, value, declared, isValue⟩ := ih inRest
          exact ⟨type, value, List.mem_cons_of_mem _ declared, isValue⟩

/-- The entries of a row are in the order of its fields. -/
theorem keys_entries_sublist (fields : List (String × SemanticType)) (row : Row fields) :
    (Keyed.keys (entries fields row)).Sublist (Keyed.keys fields) := by
  induction fields with
  | nil => exact .slnil
  | cons field rest ih =>
      obtain ⟨name, type⟩ := field
      obtain ⟨_ | value, others⟩ := row
      · exact (ih others).cons _
      · exact (ih others).cons_cons _

/-- A row of a table holds each field once. -/
theorem nodup_keys_entries (row : Row table.storableFields) :
    (Keyed.keys (entries table.storableFields row)).Nodup :=
  table.fields.distinct.sublist
    ((keys_entries_sublist _ row).trans (List.filter_sublist.map _))

/-- A table stores the entries of its rows. -/
theorem stores_of_mem_entries (row : Row table.storableFields) :
    ∀ entry ∈ entries table.storableFields row, table.Stores entry := by
  intro entry mem
  obtain ⟨type, value, declared, isValue⟩ := mem_entries mem
  obtain ⟨isField, storable⟩ := List.mem_filter.mp declared
  exact ⟨type, value, storable,
    (Keyed.lookup?_eq_some_iff table.fields.distinct _ _).mpr isField, isValue⟩

end Row

/-! ## Rows that are written -/

section Writing

variable {table : TypeInfo} {entries : List (String × Json)}

/-- A stored value is written as another one, unless it is a text that is no date. -/
theorem TypeInfo.Stores.truncateInput_cases {field : String} {value : Json}
    (stores : table.Stores (field, value)) :
    (∃ text, table.fieldType? field = some .dateTime ∧ value = .string text ∧
        DateTime.ofInput? text = none ∧
        Payload.truncateInput table field (.value value) = .error (.invalidDateTime text)) ∨
      ∃ truncated, Payload.truncateInput table field (.value value) = .ok (.value truncated) ∧
        table.Stores (field, truncated) := by
  obtain ⟨type, held, storable, declared, rfl⟩ := stores
  by_cases isDate : type = .dateTime
  · subst isDate
    have isText : RowValue.toJson .dateTime held = .string held := rfl
    cases moment : DateTime.ofInput? held with
    | none =>
        refine .inl ⟨held, declared, isText, moment, ?_⟩
        exact Payload.truncateInput_refused declared (Option.map_eq_none_iff.mpr moment)
    | some found =>
        refine .inr ⟨.string found.storedText, ?_, .dateTime, found.storedText, rfl, declared, rfl⟩
        exact Payload.truncateInput_eq_ok_iff.mpr (.inl ⟨held, found.storedText, declared,
          by rw [isText], congrArg (Option.map DateTime.storedText) moment, rfl⟩)
  · refine .inr ⟨_, Payload.truncateInput_eq_ok_iff.mpr (.inr ⟨fun text isDateField => ?_, rfl⟩),
      type, held, storable, declared, rfl⟩
    cases declared.symm.trans isDateField
    exact absurd rfl isDate

/-- Stored values are written as other ones, unless one of them is a text that is no date. -/
theorem truncateEntries_of_stores (stores : ∀ entry ∈ entries, table.Stores entry) :
    (∃ field text, (field, .string text) ∈ entries ∧ table.fieldType? field = some .dateTime ∧
        DateTime.ofInput? text = none ∧
        Payload.truncateEntries table (Input.ofValues entries) = .error (.invalidDateTime text)) ∨
      ∃ truncated, Payload.truncateEntries table (Input.ofValues entries) =
          .ok (Input.ofValues truncated) ∧
        Keyed.keys truncated = Keyed.keys entries ∧ ∀ entry ∈ truncated, table.Stores entry := by
  induction entries with
  | nil => exact .inr ⟨[], rfl, rfl, List.forall_mem_nil _⟩
  | cons entry rest ih =>
      obtain ⟨field, value⟩ := entry
      obtain ⟨firstStores, restStores⟩ := List.forall_mem_cons.mp stores
      rw [Input.ofValues, List.map_cons, ← Input.ofValues, Payload.truncateEntries]
      rcases firstStores.truncateInput_cases with
        ⟨text, declared, rfl, noDate, refused⟩ | ⟨truncated, isTruncated, truncatedStores⟩
      · rw [refused]
        exact .inl ⟨field, text, List.mem_cons_self, declared, noDate, rfl⟩
      · rw [isTruncated]
        rcases ih restStores with
          ⟨other, text, mem, declared, noDate, refused⟩ | ⟨others, areTruncated, sameKeys, store⟩
        · rw [refused]
          exact .inl ⟨other, text, List.mem_cons_of_mem _ mem, declared, noDate, rfl⟩
        · rw [areTruncated]
          exact .inr ⟨(field, truncated) :: others, rfl, congrArg (field :: ·) sameKeys,
            List.forall_mem_cons.mpr ⟨truncatedStores, store⟩⟩

/-- Stored values are written to their fields, one by one. -/
theorem writtenValues_of_stores (stores : ∀ entry ∈ entries, table.Stores entry) :
    ∃ written, Scope.writtenValues table entries = .ok written ∧
      Keyed.keys written = Keyed.keys entries := by
  induction entries with
  | nil => exact ⟨[], rfl, rfl⟩
  | cons entry rest ih =>
      obtain ⟨field, value⟩ := entry
      obtain ⟨⟨type, held, storable, declared, isValue⟩, restStores⟩ :=
        List.forall_mem_cons.mp stores
      obtain ⟨written, isWritten, sameKeys⟩ := ih restStores
      have isTyped := RowValue.ofJson_toJson table.name field storable held
      rw [← isValue] at isTyped
      exact ⟨_, Scope.writtenValues_cons_eq_ok_iff.mpr ⟨_, written,
        Scope.writtenValue_eq_ok_iff.mpr ⟨type, _, declared, isTyped, rfl⟩, isWritten, rfl⟩,
        congrArg (field :: ·) sameKeys⟩

end Writing

namespace Row

variable {table : TypeInfo} (row : Row table.storableFields)

/-- The payload of a row is prepared to values of the same fields, unless it holds a text in a
date field that is no date. -/
theorem prepareUpdate_cases :
    (∃ field text, (field, .string text) ∈ entries table.storableFields row ∧
        table.fieldType? field = some .dateTime ∧ DateTime.ofInput? text = none ∧
        (payload table.storableFields row).prepareUpdate table = .error (.invalidDateTime text)) ∨
      ∃ prepared, (payload table.storableFields row).prepareUpdate table = .ok prepared ∧
        Keyed.keys prepared.values = Keyed.keys (entries table.storableFields row) ∧
        ∀ entry ∈ prepared.values, table.Stores entry := by
  have distinct := nodup_keys_entries row
  have isPayload : (payload table.storableFields row).entries.entries =
      Input.ofValues (entries table.storableFields row) :=
    OrderedMap.entries_ofList (by rwa [← Input.keys_ofValues] at distinct)
  rw [Payload.prepareUpdate, isPayload]
  rcases truncateEntries_of_stores (stores_of_mem_entries row) with
    ⟨field, text, mem, declared, noDate, refused⟩ | ⟨truncated, areTruncated, sameKeys, stores⟩
  · rw [refused]
    exact .inl ⟨field, text, mem, declared, noDate, rfl⟩
  · have values := Payload.values_ofValues (sameKeys ▸ distinct)
    rw [areTruncated]
    exact .inr ⟨_, rfl, by rw [values, sameKeys], by rwa [values]⟩

/-- The payload of a row can be written, unless the row is blank or holds a text in a date field
that is no date. -/
theorem planUpdate_cases {scope : Scope} {tableName : String}
    (found : scope.lookupTable tableName = .ok table) :
    (entries table.storableFields row = [] ∧
        scope.planUpdate tableName .empty (payload table.storableFields row) =
          .error (.emptyUpdate table.name)) ∨
      (∃ field text, (field, .string text) ∈ entries table.storableFields row ∧
        table.fieldType? field = some .dateTime ∧ DateTime.ofInput? text = none ∧
        scope.planUpdate tableName .empty (payload table.storableFields row) =
          .error (.invalidDateTime text)) ∨
      (entries table.storableFields row ≠ [] ∧
        ∃ written, Keyed.keys written = Keyed.keys (entries table.storableFields row) ∧
          scope.planUpdate tableName .empty (payload table.storableFields row) =
            .ok ⟨table.name, .update ⟨scope.schema, table.name, written, .always,
              Projection.returning table⟩⟩) := by
  rcases row.prepareUpdate_cases with
    ⟨field, text, mem, declared, noDate, refused⟩ | ⟨prepared, isPrepared, sameKeys, stores⟩
  · refine .inr (.inl ⟨field, text, mem, declared, noDate, ?_⟩)
    simp only [Scope.planUpdate, found, refused, bind, Except.bind]
  · obtain ⟨written, isWritten, writtenKeys⟩ := writtenValues_of_stores stores
    rw [sameKeys] at writtenKeys
    have noEntries : written = [] ↔ entries table.storableFields row = [] := by
      rw [← List.map_eq_nil_iff (f := Prod.fst), ← List.map_eq_nil_iff (f := Prod.fst)
        (l := entries table.storableFields row)]
      exact iff_of_eq (congrArg (· = []) writtenKeys)
    by_cases blank : entries table.storableFields row = []
    · refine .inl ⟨blank, ?_⟩
      simp only [Scope.planUpdate, found, isPrepared, isWritten, bind, Except.bind,
        noEntries.mpr blank, List.isEmpty_nil, if_true]
    · refine .inr (.inr ⟨blank, written, writtenKeys, Scope.planUpdate_eq_ok_iff.mpr ?_⟩)
      exact ⟨table, prepared, written, .always, found, isPrepared, isWritten,
        fun nothing => blank (noEntries.mp nothing), rfl, rfl⟩

end Row

/-! ## Rows that are conditions -/

namespace Predicate

/-- The predicate that a column equals a value. -/
def equality (column : Sql.Expression) : TypedValue → Sql.Expression
  | .null => .isNull column
  | .dateTime text => dated column .equals text
  | typed => .comparison column .equals (.constant typed.constant)

/-- A plain condition on a value is an equality. -/
theorem ofValue_equals (column : Sql.Expression) (field : String) (type : SemanticType)
    (typed : TypedValue) (given : Json) :
    ofValue column ⟨field, type, .equals⟩ typed given = .ok (equality column typed) := by
  cases typed <;> rfl

end Predicate

/-- The fields of a row that hold a value, each with the predicate that its column equals it. -/
def Row.equalities (name : Option String) :
    (fields : List (String × SemanticType)) → Row fields → List (String × Sql.Expression)
  | [], _ => []
  | (field, type) :: rest, row =>
      match row.1 with
      | some value =>
          (field, Predicate.equality (.columnOf name field) (RowValue.typed type value)) ::
            equalities name rest row.2
      | none => equalities name rest row.2

section Asking

variable {table : TypeInfo} {name : Option String}

open ResolvedKey (IsReading IsOnlyReading)

/-- A declared field is a reading of its own name. -/
theorem isReading_of_declared {field : String} {type : SemanticType}
    (declared : table.fieldType? field = some type) :
    IsReading table field ⟨field, type, .equals⟩ :=
  ⟨String.append_empty, declared⟩

/-- What is wrong with a stored value in a condition is that its key has two readings. -/
theorem TypeInfo.Stores.two_readings {key : String} {value : Json} {error : RequestError}
    (stores : table.Stores (key, value))
    (offence : Condition.Offence table (key, .value value) error) :
    ∃ first second, IsReading table key first ∧ IsReading table key second ∧ first ≠ second ∧
      error = .ambiguousKey key table.name := by
  obtain ⟨type, held, storable, declared, isValue⟩ := stores
  have isReading := isReading_of_declared declared
  cases offence with
  | unread none => exact absurd isReading (none _)
  | ambiguous isFirst isSecond differ => exact ⟨_, _, isFirst, isSecond, differ, rfl⟩
  | untyped only refused =>
      cases only.alone _ isReading
      have isTyped := RowValue.ofJson_toJson table.name key storable held
      rw [← isValue] at isTyped
      cases isTyped.symm.trans refused
  | noText only _ contains =>
      cases only.alone _ isReading
      cases contains
  | nullBound only _ lessThan =>
      cases only.alone _ isReading
      cases lessThan

/-- A stored value under a key with one reading asks that the column equals it. -/
theorem ofEntry_of_declared {field : String} {type : SemanticType} (storable : type.isStorable)
    (declared : table.fieldType? field = some type) {reading : ResolvedKey}
    (only : IsOnlyReading table field reading) (value : RowValue type) :
    Predicate.ofEntry table name field (.value (RowValue.toJson type value)) =
      .ok (some (Predicate.equality (.columnOf name field) (RowValue.typed type value))) := by
  cases only.alone _ (isReading_of_declared declared)
  exact Predicate.ofEntry_value_eq_ok_iff.mpr ⟨_, _, _, only,
    RowValue.ofJson_toJson table.name field storable value,
    Predicate.ofValue_equals _ field type _ _, rfl⟩

/-- The entry of a field, and the predicate that it gives. -/
def Asks (table : TypeInfo) (name : Option String) (entry : String × Input)
    (equality : String × Sql.Expression) : Prop :=
  entry.1 = equality.1 ∧
    Predicate.ofEntry table name entry.1 entry.2 = .ok (some equality.2)

/-- A row used as a condition asks for one equality per entry. -/
theorem Row.asks_equalities (name : Option String) {fields : List (String × SemanticType)}
    (row : Row fields)
    (declared : ∀ field ∈ fields, table.fieldType? field.1 = some field.2 ∧ field.2.isStorable)
    (single : ∀ key ∈ Keyed.keys (entries fields row), ∃ reading, IsOnlyReading table key reading) :
    List.Forall₂ (Asks table name) (Input.ofValues (entries fields row))
      (equalities name fields row) := by
  induction fields with
  | nil => exact .nil
  | cons field rest ih =>
      obtain ⟨field, type⟩ := field
      obtain ⟨⟨isDeclared, storable⟩, restDeclared⟩ := List.forall_mem_cons.mp declared
      obtain ⟨_ | value, others⟩ := row
      · exact ih others restDeclared single
      · obtain ⟨⟨reading, only⟩, restSingle⟩ := List.forall_mem_cons.mp single
        exact .cons ⟨rfl, ofEntry_of_declared storable isDeclared only value⟩
          (ih others restDeclared restSingle)

/-- Entries that each give a predicate give these predicates, in their order. -/
theorem ofEntries_of_asks {entries : List (String × Input)}
    {equalities : List (String × Sql.Expression)}
    (asks : List.Forall₂ (Asks table name) entries equalities) :
    Keyed.keys entries = Keyed.keys equalities ∧
      Predicate.ofEntries table name entries = .ok (equalities.map (·.2)) := by
  induction asks with
  | nil => exact ⟨rfl, rfl⟩
  | cons first _ ih =>
      refine ⟨List.cons_eq_cons.mpr ⟨first.1, ih.1⟩, ?_⟩
      exact Predicate.ofEntries_cons_eq_ok_iff.mpr ⟨_, _, first.2, ih.2, rfl⟩

/-- A row that is taken as a condition asks one equality of each value it holds, unless a field
it holds a value in is spelled like another condition key. -/
theorem Row.predicates_cases (row : Row table.storableFields) (name : Option String) :
    (∃ key ∈ Keyed.keys (entries table.storableFields row), ∃ first second,
        IsReading table key first ∧ IsReading table key second ∧ first ≠ second ∧
        (condition table.storableFields row).predicates table name =
          .error (.ambiguousKey key table.name)) ∨
      ((∀ key ∈ Keyed.keys (entries table.storableFields row),
          ∃ reading, IsOnlyReading table key reading) ∧
        ∃ ordered, ordered.Perm (equalities name table.storableFields row) ∧
          (Keyed.keys ordered).Pairwise (· < ·) ∧
          (condition table.storableFields row).predicates table name =
            .ok (ordered.map (·.2))) := by
  have distinct := nodup_keys_entries row
  rw [← Input.keys_ofValues] at distinct
  have perm := Keyed.perm_entries_ofList distinct
  have values : ∀ {key input}, (key, input) ∈ Input.ofValues (entries table.storableFields row) →
      ∃ value, (key, value) ∈ entries table.storableFields row ∧ input = .value value := by
    intro key input mem
    obtain ⟨⟨_, value⟩, isEntry, same⟩ := List.mem_map.mp mem
    cases same
    exact ⟨value, isEntry, rfl⟩
  rcases Predicate.ofEntries_cases table name
      (SortedMap.ofList (Input.ofValues (entries table.storableFields row))).entries with
    ⟨accepted, -⟩ | ⟨before, ⟨key, input⟩, after, error, isSplit, -, offence, failed⟩
  · have single : ∀ key ∈ Keyed.keys (entries table.storableFields row),
        ∃ reading, IsOnlyReading table key reading := by
      intro key mem
      rw [← Input.keys_ofValues] at mem
      obtain ⟨entry, isEntry, rfl⟩ := List.mem_map.mp mem
      obtain ⟨reading, only, -⟩ := accepted entry (perm.mem_iff.mpr isEntry)
      exact ⟨reading, only⟩
    have declared : ∀ field ∈ table.storableFields,
        table.fieldType? field.1 = some field.2 ∧ field.2.isStorable := by
      intro field mem
      obtain ⟨isField, storable⟩ := List.mem_filter.mp mem
      exact ⟨(Keyed.lookup?_eq_some_iff table.fields.distinct _ _).mpr isField, storable⟩
    obtain ⟨ordered, asks, isPerm⟩ :=
      List.perm_comp_forall₂ perm (row.asks_equalities name declared single)
    obtain ⟨sameKeys, given⟩ := ofEntries_of_asks asks
    refine .inr ⟨single, ordered, isPerm, ?_, given⟩
    rw [← sameKeys]
    exact (SortedMap.ofList _).ascending
  · have mem : (key, input) ∈ Input.ofValues (entries table.storableFields row) :=
      perm.mem_iff.mp (isSplit ▸ List.mem_append_right _ List.mem_cons_self)
    obtain ⟨value, isEntry, rfl⟩ := values mem
    obtain ⟨first, second, isFirst, isSecond, differ, rfl⟩ :=
      (stores_of_mem_entries row _ isEntry).two_readings offence
    exact .inl ⟨key, List.mem_map_of_mem (f := Prod.fst) isEntry, first, second, isFirst, isSecond,
      differ, failed⟩

end Asking

/-- Every type of values is spelled in generated code as what planning reads. -/
theorem Generated.spells_memberType (type : SemanticType) :
    ∃ words, Generated.memberType type = Token.code words ∧
      Generated.Spells words (RowValue type) := by
  cases type with
  | number => exact ⟨_, rfl, .number⟩
  | boolean => exact ⟨_, rfl, .boolean⟩
  | json | relation | unknown => exact ⟨_, rfl, .json⟩
  | id | string | dateTime | enumeration => exact ⟨_, rfl, .text⟩

/-- Each table has a row struct, and the struct fits the table. Its members are, in order, the
fields with a column, each with the type of its values, and these are the columns that a read of
all fields and a write return. A row that is written can only be blank or hold a text in a date
field that is no date. A row that is taken as a condition asks one equality of each value it
holds, in the order of the fields' names, unless such a field is spelled like another condition
key. -/
theorem typed_rows_fit (catalog : Catalog) :
    catalog.tableNames.map (·.table) = catalog.tables ∧
    ∀ names ∈ catalog.tableNames,
      let table := names.table
      let columns := Projection.returnedColumns table
      (names.members.map (fun member => (member.field, member.type)) = table.storableFields ∧
        (∀ member ∈ names.members, ∃ words, Generated.memberType member.type = Token.code words ∧
          Generated.Spells words (RowValue member.type)) ∧
        Generated.renames (Generated.rowStruct names) = columns ∧
        (∀ name, (Projection.ofSelection table .all name).map (·.1) = columns) ∧
        (Projection.returning table).map (·.1) = columns) ∧
      ∀ row : Row table.storableFields,
        let entries := row.entries table.storableFields
        (∀ (scope : Scope) (tableName : String), scope.lookupTable tableName = .ok table →
          let planned := scope.planUpdate tableName .empty (row.payload table.storableFields)
          (entries = [] ∧ planned = .error (.emptyUpdate table.name)) ∨
            (∃ field text, (field, .string text) ∈ entries ∧
              table.fieldType? field = some .dateTime ∧ DateTime.ofInput? text = none ∧
              planned = .error (.invalidDateTime text)) ∨
            (entries ≠ [] ∧ ∃ written, Keyed.keys written = Keyed.keys entries ∧
              planned = .ok ⟨table.name, .update ⟨scope.schema, table.name, written, .always,
                Projection.returning table⟩⟩)) ∧
        ∀ name : Option String,
          let predicates := (row.condition table.storableFields).predicates table name
          (∃ key ∈ Keyed.keys entries, ∃ first second, ResolvedKey.IsReading table key first ∧
              ResolvedKey.IsReading table key second ∧ first ≠ second ∧
              predicates = .error (.ambiguousKey key table.name)) ∨
            ((∀ key ∈ Keyed.keys entries,
                ∃ reading, ResolvedKey.IsOnlyReading table key reading) ∧
              ∃ ordered, ordered.Perm (Row.equalities name table.storableFields row) ∧
                (Keyed.keys ordered).Pairwise (· < ·) ∧
                predicates = .ok (ordered.map (·.2))) := by
  refine ⟨catalog.map_table_tableNamesIn .standard, fun names declared => ?_⟩
  have members : names.members.map (fun member => (member.field, member.type)) =
      names.table.storableFields := by
    rw [Catalog.members_of_mem_tableNamesIn declared]
    exact names.table.map_field_members .standard
  refine ⟨⟨members, fun member _ => Generated.spells_memberType member.type, ?_, fun name => ?_,
    ?_⟩, fun row => ⟨fun scope tableName found => row.planUpdate_cases found, row.predicates_cases⟩⟩
  · rw [Generated.renames_rowStruct]
    simp only [Projection.returnedColumns, ← members, List.map_map, Function.comp_def]
  · rw [Projection.ofSelection, Projection.ofTable, List.map_map]
    rfl
  · rw [Projection.returning, List.map_map]
    exact List.map_id _

/-- A row of posts without a score: it can be written, and as a condition it asks for its
identifier and its date. -/
theorem typed_rows_fit_post :
    let post : TypeInfo :=
      .table "Post" [("id", .id), ("score", .number), ("author", .relation), ("sentAt", .dateTime)]
    let catalog : Catalog := .ofTypes [post]
    let scope : Scope := ⟨catalog, "public"⟩
    let row : Row post.storableFields := (some "p1", none, some "2024-03-05 06:07:08", ())
    scope.lookupTable "Post" = .ok post ∧
      (∃ names ∈ catalog.tableNames, names.table = post ∧
        Generated.renames (Generated.rowStruct names) = ["id", "score", "sentAt"]) ∧
      (∃ plan, scope.planUpdate "Post" .empty (row.payload post.storableFields) = .ok plan) ∧
      ∃ predicates, (row.condition post.storableFields).predicates post none = .ok predicates ∧
        predicates.length = 2 := by
  intro post catalog scope row
  have found : scope.lookupTable "Post" = .ok post := rfl
  have isEntries : row.entries post.storableFields =
      [("id", .string "p1"), ("sentAt", .string "2024-03-05 06:07:08")] := rfl
  have isDate : (DateTime.ofInput? "2024-03-05 06:07:08").isSome := by decide +kernel
  obtain ⟨tables, fit⟩ := typed_rows_fit catalog
  have isTable : post ∈ catalog.tableNames.map (·.table) := by
    rw [tables]
    exact List.mem_cons_self
  obtain ⟨names, declared, isPost⟩ := List.mem_map.mp isTable
  obtain ⟨⟨-, -, renamed, -, -⟩, rows⟩ := fit names declared
  rw [isPost] at renamed rows
  obtain ⟨written, asked⟩ := rows row
  refine ⟨found, ⟨names, declared, isPost, renamed⟩, ?_, ?_⟩
  · rcases written scope "Post" found with
      ⟨blank, -⟩ | ⟨field, text, mem, dateField, noDate, -⟩ | ⟨-, _, -, planned⟩
    · cases isEntries.symm.trans blank
    · simp only [isEntries, List.mem_cons, List.not_mem_nil, or_false, Prod.mk.injEq] at mem
      rcases mem with ⟨rfl, -⟩ | ⟨-, isText⟩
      · cases dateField
      · cases isText
        rw [noDate] at isDate
        cases isDate
    · exact ⟨_, planned⟩
  · rcases asked none with ⟨key, mem, first, second, isFirst, isSecond, differ, -⟩ |
      ⟨-, ordered, perm, -, given⟩
    · have single : ∃ reading, ResolvedKey.resolve post key = .ok reading := by
        simp only [isEntries, Keyed.keys, List.map_cons, List.map_nil, List.mem_cons,
          List.not_mem_nil, or_false] at mem
        rcases mem with rfl | rfl <;> exact ⟨_, rfl⟩
      obtain ⟨reading, resolved⟩ := single
      have only := (ResolvedKey.resolve_eq_ok_iff reading).mp resolved
      exact absurd ((only.alone first isFirst).trans (only.alone second isSecond).symm) differ
    · exact ⟨_, given, by rw [List.length_map, perm.length_eq]; rfl⟩

end CatalogSql
