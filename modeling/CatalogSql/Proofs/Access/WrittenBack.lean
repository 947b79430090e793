import CatalogSql.Proofs.Access.DecodedRows
import CatalogSql.Proofs.Planning.Update

/-!
# Integers that are written back

An integer that a row has in a field of numbers is held as the double nearest to it. So updating
with the row as it was read binds this double, and the integer itself only where a double is equal
to it: at the latest, integers of more than 53 bits change.
-/

namespace CatalogSql

/-- A type takes what it keeps of a value. -/
theorem SemanticType.Takes.kept {type : SemanticType} {value : Json} (takes : type.Takes value) :
    type.Takes (type.kept value) := by
  cases takes with
  | null storable => cases type <;> first | exact .null rfl | cases storable
  | text textual text =>
      rcases textual with textual | rfl
      · cases type <;> first | exact .text (.inl rfl) text | cases textual
      · exact .text (.inr rfl) text
  | boolean value => exact .boolean value
  | number number => exact .number _
  | json value => exact .json value

/-! ## What a decoded row sets -/

namespace TableNames

open Scope (AcceptsUpdate Fits)
open Payload (IsDated)

variable {names : TableNames} {members : List (String × Json)}
  (proper : (Json.object members).IsProper) {row : Row names.table.storableFields}
  (decoded : names.decodeRow (.object members) = .ok row)
include proper decoded

/-- The payload of a decoded row sets what the row keeps of the object. -/
theorem values_of_decodeRow :
    (row.payload names.table.storableFields).values =
      Row.keptOf names.table.storableFields members := by
  rw [← entries_of_decodeRow proper decoded]
  exact Payload.values_ofValues row.nodup_keys_entries

/-- The payload of a decoded row has what was kept of its members. -/
theorem mem_values_iff_of_decodeRow {field : String} {kept : Json} :
    (field, kept) ∈ (row.payload names.table.storableFields).values ↔
      ∃ type value, (field, type) ∈ names.table.storableFields ∧ (field, value) ∈ members ∧
        value ≠ .null ∧ type.kept value = kept := by
  simp only [values_of_decodeRow proper decoded, Row.mem_keptOf_iff,
    Keyed.lookup?_eq_some_iff proper.1]

/-- What a decoded row sets fits its fields. -/
theorem fits_of_decodeRow :
    ∀ entry ∈ (row.payload names.table.storableFields).values, Fits names.table entry := by
  rintro ⟨field, kept⟩ mem
  obtain ⟨type, value, isField, isMember, -, rfl⟩ :=
    (mem_values_iff_of_decodeRow proper decoded).mp mem
  have takes := (exists_decodeRow_iff proper).mp ⟨row, decoded⟩ field type value isField isMember
  exact ⟨type, (TypeInfo.mem_storableFields_iff.mp isField).1, takes.kept⟩

/-- The dates that a decoded row sets are those of the object. -/
theorem dated_iff_of_decodeRow :
    (∀ entry ∈ (row.payload names.table.storableFields).values, IsDated names.table entry) ↔
      ∀ entry ∈ members, IsDated names.table entry := by
  constructor
  · rintro dated ⟨field, _⟩ isMember text rfl declared
    have isField := TypeInfo.mem_storableFields_iff.mpr ⟨declared, rfl⟩
    refine dated (field, .string text) ?_ text rfl declared
    exact (mem_values_iff_of_decodeRow proper decoded).mpr
      ⟨.dateTime, .string text, isField, isMember, nofun, rfl⟩
  · rintro dated ⟨field, _⟩ mem text rfl declared
    obtain ⟨type, value, isField, isMember, -, isText⟩ :=
      (mem_values_iff_of_decodeRow proper decoded).mp mem
    cases (TypeInfo.mem_storableFields_iff.mp isField).1.symm.trans declared
    obtain rfl : value = .string text := isText
    exact dated _ isMember text rfl declared

/-- Updating with a decoded row that sets something is accepted when its dates are dates and the
condition gives an expression. -/
theorem acceptsUpdate_iff_of_decodeRow {condition : Condition}
    (some : (row.payload names.table.storableFields).values ≠ []) :
    AcceptsUpdate names.table condition (row.payload names.table.storableFields) ↔
      (∀ entry ∈ members, IsDated names.table entry) ∧
        ∃ expression, condition.expression names.table none = .ok expression := by
  rw [← dated_iff_of_decodeRow proper decoded]
  constructor
  · exact fun accepts => ⟨accepts.dated, accepts.condition⟩
  · exact fun ⟨dated, given⟩ => ⟨dated, fits_of_decodeRow proper decoded, some, given⟩

end TableNames

/-! ## Doubles that are written -/

namespace Scope

variable {scope : Scope} {table : TypeInfo} {tableName field : String} {condition : Condition}
  {payload : Payload} {plan : Sql.Plan}

/-- A double of the payload is bound as it is by the update's only assignment to its field. -/
theorem assigns_double_of_planUpdate (found : scope.lookupTable tableName = .ok table)
    (planned : scope.planUpdate tableName condition payload = .ok plan) {number : Double}
    (isNumber : table.fieldType? field = some .number)
    (mem : (field, .number (.double number)) ∈ payload.values) :
    ∃ change : Sql.Update, plan = ⟨table.name, .update change⟩ ∧
      (Keyed.keys change.assignments).Nodup ∧
      (field, .constant (.double number)) ∈ change.assignments ∧
      plan.raw.params =
        change.assignments.flatMap (·.2.boundValues) ++ change.condition.boundValues ∧
      plan.query.params = plan.raw.params := by
  obtain ⟨_, prepared, written, expression, foundAgain, isPrepared, areWritten, -, -, rfl⟩ :=
    planUpdate_eq_ok_iff.mp planned
  cases found.symm.trans foundAgain
  have truncates := Payload.truncates_of_prepareUpdate isPrepared
  have related := related_of_writtenValues areWritten
  obtain ⟨⟨_, assigned⟩, isAssigned, rfl, stored, truncated, isWritten⟩ :=
    (truncates.comp related).exists_of_mem_left mem
  obtain ⟨type, declared, assigns⟩ := assigns_of_writtenValue truncated isWritten
  cases isNumber.symm.trans declared
  refine ⟨_, rfl, ?_, ?_, ?_, ?_⟩
  · exact (truncates.keys.trans related.keys) ▸ payload.nodup_keys_values
  · generalize assigned.boundValues = bound at assigns
    cases assigns with
    | integer isInteger => cases isInteger
    | double => exact isAssigned
  · exact (Sql.params_ofPieces _).trans (boundValues_update rfl)
  · exact (Sql.params_ofPieces _).trans
      ((boundValues_wrapped_update _).trans (Sql.params_ofPieces _).symm)

end Scope

/-- A row whose stored fields take their values is decoded. Updating with it is planned when its
dates are dates and the condition gives an expression, and binds, for an integer that the row has in
a field of numbers, the double nearest to the integer. The two are equal exactly where any double is
equal to the integer, so in any case when it has at most 53 bits. -/
theorem integer_written_back {names : TableNames} {members : List (String × Json)}
    (proper : (Json.object members).IsProper)
    (takes : ∀ field type value, (field, type) ∈ names.table.storableFields →
      (field, value) ∈ members → type.Takes value)
    {field : String} (isNumber : names.table.fieldType? field = some .number) {value : ℤ}
    (isMember : (field, .integer value) ∈ members) :
    (∃ row, names.decodeRow (.object members) = .ok row ∧
        ∀ (scope : Scope) (tableName : String) (condition : Condition),
          scope.lookupTable tableName = .ok names.table →
          let planned :=
            scope.planUpdate tableName condition (row.payload names.table.storableFields)
          ((∃ plan, planned = .ok plan) ↔
              (∀ entry ∈ members, Payload.IsDated names.table entry) ∧
                ∃ expression, condition.expression names.table none = .ok expression) ∧
            ∀ plan, planned = .ok plan →
              ∃ change : Sql.Update, plan = ⟨names.table.name, .update change⟩ ∧
                (Keyed.keys change.assignments).Nodup ∧
                (field, .constant (.double (Double.ofInt value))) ∈ change.assignments ∧
                plan.raw.params =
                  change.assignments.flatMap (·.2.boundValues) ++ change.condition.boundValues ∧
                plan.query.params = plan.raw.params) ∧
      (Double.ofInt value).IsNearest value ∧
      ((Double.ofInt value).exact = value ↔
        ∃ number : Double, number.isFinite ∧ number.exact = value) ∧
      (value.natAbs ≤ 2 ^ 53 → (Double.ofInt value).exact = value) := by
  obtain ⟨row, decoded⟩ := (TableNames.exists_decodeRow_iff proper).mpr takes
  have isField : (field, SemanticType.number) ∈ names.table.storableFields :=
    TypeInfo.mem_storableFields_iff.mpr ⟨isNumber, rfl⟩
  have isKept : (field, .number (.double (Double.ofInt value))) ∈
      (row.payload names.table.storableFields).values :=
    (TableNames.mem_values_iff_of_decodeRow proper decoded).mpr
      ⟨.number, .integer value, isField, isMember, nofun, rfl⟩
  have nearest : (Double.ofInt value).IsNearest value := by
    obtain ⟨least, most⟩ : (JsonNumber.integer value).IsProper := proper.2.of_mem isMember
    exact Double.isNearest_ofInt (by omega)
  refine ⟨⟨row, decoded, fun scope tableName condition found => ⟨?_, fun plan planned => ?_⟩⟩,
    nearest, nearest.exact_eq_iff, Double.exact_ofInt_of_small⟩
  · exact (Scope.exists_planUpdate_iff found).trans
      (TableNames.acceptsUpdate_iff_of_decodeRow proper decoded (List.ne_nil_of_mem isKept))
  · exact Scope.assigns_double_of_planUpdate found planned isNumber isKept

/-- The score of a post is written back as it was. -/
theorem integer_written_back_post :
    let post : TypeInfo := .table "Post" [("id", .id), ("score", .number)]
    let catalog : Catalog := .ofTypes [post]
    let scope : Scope := ⟨catalog, "public"⟩
    let members : List (String × Json) := [("id", .string "p1"), ("score", .integer (-7))]
    (∃ names ∈ catalog.tableNames, names.table = post ∧
      ∃ row, names.decodeRow (.object members) = .ok row ∧
        ∃ change : Sql.Update,
          scope.planUpdate "Post" .empty (row.payload names.table.storableFields) =
            .ok ⟨"Post", .update change⟩ ∧
          ("score", .constant (.double (Double.ofInt (-7)))) ∈ change.assignments) ∧
      (Double.ofInt (-7)).exact = -7 := by
  intro post catalog scope members
  obtain ⟨⟨_, _, _, _, _, _⟩, declared, rfl⟩ :=
    catalog.exists_mem_tableNamesIn .standard post List.mem_cons_self
  have proper : (Json.object members).IsProper :=
    ⟨by decide +kernel, trivial, ⟨by decide, by decide⟩, trivial⟩
  have found : scope.lookupTable "Post" = .ok post := rfl
  have takes : ∀ field type value, (field, type) ∈ post.storableFields →
      (field, value) ∈ members → type.Takes value := by
    intro field type value isField isMember
    simp only [members, List.mem_cons, List.not_mem_nil, or_false, Prod.mk.injEq] at isMember
    have declared := (TypeInfo.mem_storableFields_iff.mp isField).1
    rcases isMember with ⟨rfl, rfl⟩ | ⟨rfl, rfl⟩ <;> cases declared
    · exact .text (.inl rfl) "p1"
    · exact .number _
  obtain ⟨⟨row, decoded, writes⟩, -, -, small⟩ :=
    @integer_written_back ⟨post, _, _, _, _, _⟩ members proper takes "score" rfl (-7)
      (List.mem_cons_of_mem _ List.mem_cons_self)
  obtain ⟨accepted, shape⟩ := writes scope "Post" .empty found
  have noDates : ∀ entry ∈ members, Payload.IsDated post entry := by
    rintro entry isMember text - isDate
    simp only [members, List.mem_cons, List.not_mem_nil, or_false] at isMember
    rcases isMember with rfl | rfl <;> cases isDate
  obtain ⟨plan, planned⟩ := accepted.mpr ⟨noDates, _, rfl⟩
  obtain ⟨change, rfl, -, assigned, -, -⟩ := shape plan planned
  exact ⟨⟨_, declared, rfl, row, decoded, change, planned, assigned⟩, mod_cast small (by decide)⟩

/-- The least positive integer that no double is equal to changes when it is written back. -/
theorem integer_changes_when_written_back :
    let option : TypeInfo := .table "Option" [("_1", .number)]
    let catalog : Catalog := .ofTypes [option]
    let scope : Scope := ⟨catalog, "public"⟩
    (∃ names ∈ catalog.tableNames, names.table = option ∧
      ∃ row, names.decodeRow (.object [("_1", .integer 9007199254740993)]) = .ok row ∧
        ∃ plan, scope.planUpdate "Option" .empty (row.payload names.table.storableFields) =
            .ok plan ∧
          plan.raw.params = [.double ⟨0x4340000000000000⟩]) ∧
      (⟨0x4340000000000000⟩ : Double).exact = 9007199254740992 := by
  intro option catalog scope
  obtain ⟨⟨_, _, _, _, _, _⟩, declared, rfl⟩ :=
    catalog.exists_mem_tableNamesIn .standard option List.mem_cons_self
  have rounded : Double.ofInt 9007199254740993 = ⟨0x4340000000000000⟩ := by decide +kernel
  refine ⟨⟨_, declared, rfl, (some (Double.ofInt 9007199254740993), ()), rfl, _, rfl, ?_⟩, ?_⟩
  · rw [← rounded]
    rfl
  · have numerator : (⟨0x4340000000000000⟩ : Double).numerator = 9007199254740992 := by
      decide +kernel
    have denominator : (⟨0x4340000000000000⟩ : Double).denominator = 1 := by decide +kernel
    have positive : (⟨0x4340000000000000⟩ : Double).isNegative = false := by decide +kernel
    rw [Double.exact, Double.exactMagnitude, numerator, denominator, positive]
    simp

end CatalogSql
