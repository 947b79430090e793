import CatalogSql.Proofs.Planning.Filtering
import CatalogSql.Proofs.Sql.Evaluation

/-!
# What conditions mean

A row satisfies the expression of a condition when every set key accepts what the row holds
in the key's field. Names play no part in this: the expression for a read, whose columns are
qualified, and the one for a write, whose columns are not, keep the same rows.
-/

namespace CatalogSql

open ResolvedKey (IsOnlyReading)
open Sql (Datum Engine)

namespace SemanticType

/-- Whether values of the type are texts. -/
def isTextual : SemanticType → Bool
  | .id | .string | .enumeration => true
  | _ => false

variable {δ : Type} (engine : Engine δ)

/-- What is compared of a value held in a field: of a date, the seconds since 1970. -/
def measure : SemanticType → Datum δ → Datum δ
  | .dateTime, held => engine.epoch held
  | _, held => held

/-- What a field is compared with, for a json value that is not null. -/
def bound? : SemanticType → Json → Option (Datum δ)
  | _, .null => none
  | .id, .string text | .string, .string text | .enumeration, .string text => some (.text text)
  | .dateTime, .string text =>
      some (engine.epoch (engine.apply .toTimestamp [.text text, .text datePattern]))
  | .boolean, .boolean value => some (.boolean value)
  | .number, .number given =>
      match given.int64? with
      | some value => some (.whole value.toInt)
      | none => some (.double given.toDouble)
  | .json, value => some (.json value)
  | _, _ => none

end SemanticType

/-- A row of a table. Every field is null or has a value, which is a text in a field of texts. -/
structure StoredRow (table : TypeInfo) (δ : Type) where
  value? : String → Option (Datum δ)
  textual : ∀ field type held, table.fieldType? field = some type → type.isTextual = true →
    value? field = some held → ∃ text, held = .text text

/-- The columns of a row whose table is known under a name, if it has one. -/
def StoredRow.columns {table : TypeInfo} {δ : Type} (row : StoredRow table δ)
    (name : Option String) : Sql.ColumnReference → Option (Datum δ)
  | .qualified (.aliased qualifier) field =>
      if name = some qualifier then row.value? field else none
  | .qualified (.stored _ _) _ => none
  | .plain field => row.value? field

/-- What a key with a value asks of what a row holds in the key's field. -/
def ResolvedKey.Accepts {δ : Type} (engine : Engine δ) (reading : ResolvedKey) (value : Json)
    (held : Option (Datum δ)) : Prop :=
  match reading.operator, value with
  | .equals, .null => held = none
  | .equals, value => ∃ datum bound, held = some datum ∧
      reading.type.bound? engine value = some bound ∧
      engine.equal (reading.type.measure engine datum) bound = true
  | .lessThan, value => ∃ datum bound, held = some datum ∧
      reading.type.bound? engine value = some bound ∧
      engine.less (reading.type.measure engine datum) bound = true
  | .contains, value => ∃ text sought, held = some (.text text) ∧ value = .string sought ∧
      sought.toList <:+: text.toList

/-- The ways in which a json value is typed. -/
inductive TypedValue.Types : SemanticType → Json → TypedValue → Prop where
  | null (type : SemanticType) : Types type .null .null
  | id (text : String) : Types .id (.string text) (.id text)
  | string (text : String) : Types .string (.string text) (.string text)
  | enumeration (text : String) : Types .enumeration (.string text) (.enumeration text)
  | dateTime (text : String) : Types .dateTime (.string text) (.dateTime text)
  | boolean (value : Bool) : Types .boolean (.boolean value) (.boolean value)
  | integer {number : JsonNumber} {value : Int64} (isInteger : number.int64? = some value) :
      Types .number (.number number) (.integer value)
  | double {number : JsonNumber} (notInteger : number.int64? = none) :
      Types .number (.number number) (.double number.toDouble)
  | json {value : Json} (notNull : value ≠ .null) : Types .json value (.json value)

/-- An accepted value is typed as its type says. -/
theorem TypedValue.types_of_ofJson {table field : String} {type : SemanticType} {value : Json}
    {typed : TypedValue} (accepted : TypedValue.ofJson table field type value = .ok typed) :
    Types type value typed := by
  have number (given : JsonNumber) : Types .number (.number given) (ofNumber given) := by
    unfold ofNumber
    split
    · rename_i isInteger
      exact .integer isInteger
    · rename_i notInteger
      exact .double notInteger
  cases type <;> cases value <;> cases accepted <;> first
    | exact number _
    | exact .json (by rintro ⟨⟩)
    | constructor

variable {δ : Type} {engine : Engine δ} {table : TypeInfo}

/-- `null` is typed as null. -/
theorem TypedValue.Types.eq_null {type : SemanticType} {typed : TypedValue}
    (types : Types type .null typed) : typed = .null := by
  cases types with
  | null => rfl
  | json notNull => exact absurd rfl notNull

/-- Only dates are measured. -/
theorem SemanticType.measure_of_ne {type : SemanticType} (noDate : type ≠ .dateTime)
    (held : Datum δ) : type.measure engine held = held := by
  cases type with
  | dateTime => exact absurd rfl noDate
  | _ => rfl

/-- Other fields than dates are compared with the constant a value is typed as. -/
theorem TypedValue.Types.bound?_eq {type : SemanticType} {value : Json} {typed : TypedValue}
    (types : Types type value typed) (noDate : type ≠ .dateTime) :
    type.bound? engine value = typed.constant.datum? := by
  cases types with
  | null => cases type <;> rfl
  | dateTime => exact absurd rfl noDate
  | integer isInteger => simp only [SemanticType.bound?, isInteger, constant, Sql.Constant.datum?]
  | double notInteger => simp only [SemanticType.bound?, notInteger, constant, Sql.Constant.datum?]
  | json notNull =>
      cases value with
      | null => exact absurd rfl notNull
      | _ => rfl
  | _ => rfl

/-- An equality accepts what equals the bound value. -/
theorem ResolvedKey.accepts_equals_iff {field : String} {type : SemanticType} {value : Json}
    {held : Option (Datum δ)} (notNull : value ≠ .null) :
    (ResolvedKey.mk field type .equals).Accepts engine value held ↔
      ∃ datum bound, held = some datum ∧ type.bound? engine value = some bound ∧
        engine.equal (type.measure engine datum) bound = true := by
  cases value with
  | null => exact absurd rfl notNull
  | _ => exact Iff.rfl

/-- A column of a row has the value of its field, qualified or not. -/
theorem StoredRow.eval_columnOf (row : StoredRow table δ) (name : Option String) (field : String) :
    (Sql.Expression.columnOf name field).eval engine (row.columns name) = row.value? field := by
  cases name with
  | none => rfl
  | some name => exact if_pos rfl

namespace Predicate

variable {columns : Sql.ColumnReference → Option (Datum δ)} {column predicate : Sql.Expression}
  {reading : ResolvedKey} {value : Json} {typed : TypedValue}

/-- A text is found in a column when it is a part of the text there. -/
theorem holds_containing_iff {sought : String}
    (textual : ∀ held, column.eval engine columns = some held → ∃ text, held = .text text) :
    (containing column sought).Holds engine columns ↔
      ∃ text, column.eval engine columns = some (.text text) ∧ sought.toList <:+: text.toList := by
  rw [containing, Sql.Expression.holds_comparison_iff]
  cases found : column.eval engine columns with
  | none =>
      have noPosition : (Sql.Expression.call .strpos [column, .constant (.string sought)]).eval
          engine columns = none := by
        simp only [Sql.Expression.eval, Sql.Expression.listEval, found, Option.map_none]
      rw [noPosition]
      simp
  | some held =>
      obtain ⟨text, rfl⟩ := textual held found
      have isPosition : (Sql.Expression.call .strpos [column, .constant (.string sought)]).eval
          engine columns = some (.whole (Sql.position text.toList sought.toList)) := by
        simp only [Sql.Expression.eval, Sql.Expression.listEval, found, Sql.Constant.datum?,
          Option.map_some, Engine.call]
      constructor
      · rintro ⟨first, second, isFirst, isSecond, greater⟩
        cases isPosition.symm.trans isFirst
        cases isSecond
        exact ⟨text, rfl, Sql.position_pos_iff.mp (Int.natCast_pos.mp (of_decide_eq_true greater))⟩
      · rintro ⟨_, same, isPart⟩
        cases same
        exact ⟨_, _, isPosition, rfl,
          decide_eq_true (Int.natCast_pos.mpr (Sql.position_pos_iff.mpr isPart))⟩

/-- A date is compared through the seconds of both sides. -/
theorem holds_dated_iff {operator : Operator} {text : String} :
    (dated column operator text).Holds engine columns ↔
      ∃ datum bound, column.eval engine columns = some datum ∧
        SemanticType.dateTime.bound? engine (.string text) = some bound ∧
        engine.compare (comparison operator) (engine.epoch datum) bound = true := by
  rw [dated, Sql.Expression.holds_comparison_iff]
  constructor
  · rintro ⟨first, bound, isFirst, isBound, compared⟩
    obtain ⟨datum, found, rfl⟩ := Option.map_eq_some_iff.mp isFirst
    exact ⟨datum, bound, found, isBound, compared⟩
  · rintro ⟨datum, bound, found, isBound, compared⟩
    exact ⟨engine.epoch datum, bound, Option.map_eq_some_iff.mpr ⟨datum, found, rfl⟩, isBound,
      compared⟩

/-- A value that is not null is compared with what the column holds, under either operator
that compares. -/
theorem holds_compared_iff (types : TypedValue.Types reading.type value typed)
    (notNull : value ≠ .null) (compares : reading.operator ≠ .contains)
    (built : ofValue column reading typed value = .ok predicate) :
    predicate.Holds engine columns ↔
      ∃ datum bound, column.eval engine columns = some datum ∧
        reading.type.bound? engine value = some bound ∧
        engine.compare (comparison reading.operator) (reading.type.measure engine datum) bound =
          true := by
  obtain ⟨field, type, operator⟩ := reading
  have ofConstant (noDate : type ≠ .dateTime) (shape : predicate =
      .comparison column (comparison operator) (.constant typed.constant)) :
      predicate.Holds engine columns ↔ ∃ datum bound, column.eval engine columns = some datum ∧
        type.bound? engine value = some bound ∧
        engine.compare (comparison operator) (type.measure engine datum) bound = true := by
    rw [shape, Sql.Expression.holds_comparison_iff, types.bound?_eq noDate]
    simp only [SemanticType.measure_of_ne noDate, Sql.Expression.eval]
  cases types with
  | null => exact absurd rfl notNull
  | dateTime text =>
      cases operator with
      | contains => exact absurd rfl compares
      | equals | lessThan =>
          cases built
          exact holds_dated_iff
  | _ =>
      refine ofConstant (by decide) ?_
      cases operator with
      | contains => exact absurd rfl compares
      | equals | lessThan =>
          cases built
          rfl

/-- A predicate holds on a row when its key accepts what the row holds in its column. -/
theorem holds_ofValue_iff (types : TypedValue.Types reading.type value typed)
    (built : ofValue column reading typed value = .ok predicate)
    (textual : reading.type.isTextual = true →
      ∀ held, column.eval engine columns = some held → ∃ text, held = .text text) :
    predicate.Holds engine columns ↔
      reading.Accepts engine value (column.eval engine columns) := by
  obtain ⟨field, type, operator⟩ := reading
  cases operator with
  | equals =>
      by_cases isNull : value = .null
      · subst isNull
        obtain rfl := types.eq_null
        cases built
        exact Sql.Expression.holds_isNull_iff
      · have compares : Operator.equals ≠ .contains := by decide
        rw [ResolvedKey.accepts_equals_iff isNull]
        exact holds_compared_iff types isNull compares built
  | lessThan =>
      have notNull : value ≠ .null := by
        rintro rfl
        obtain rfl := types.eq_null
        cases built
      have compares : Operator.lessThan ≠ .contains := by decide
      exact holds_compared_iff types notNull compares built
  | contains =>
      have searched (sought : String) (isText : type.isTextual = true)
          (isString : value = .string sought) (shape : predicate = containing column sought) :
          predicate.Holds engine columns ↔ (ResolvedKey.mk field type .contains).Accepts engine
            value (column.eval engine columns) := by
        rw [shape, holds_containing_iff (textual isText), isString]
        constructor
        · rintro ⟨text, held, isPart⟩
          exact ⟨text, sought, held, rfl, isPart⟩
        · rintro ⟨text, _, held, same, isPart⟩
          cases same
          exact ⟨text, held, isPart⟩
      cases types with
      | id text | string text | enumeration text =>
          cases built
          exact searched text rfl rfl rfl
      | _ => cases built

/-- A predicate of a set key holds on a row when the key's only reading accepts what the row
holds in its field. -/
theorem Compares.holds_iff {name : Option String} {entry : String × Json}
    (compares : Compares table name entry predicate) (row : StoredRow table δ) :
    predicate.Holds engine (row.columns name) ↔ ∃ reading, IsOnlyReading table entry.1 reading ∧
      reading.Accepts engine entry.2 (row.value? reading.field) := by
  obtain ⟨reading, typed, only, accepted, built⟩ := compares
  have textual : reading.type.isTextual = true → ∀ held,
      (Sql.Expression.columnOf name reading.field).eval engine (row.columns name) = some held →
        ∃ text, held = .text text := by
    intro isTextual held isHeld
    rw [row.eval_columnOf] at isHeld
    exact row.textual _ _ held only.isReading.declared isTextual isHeld
  rw [holds_ofValue_iff (TypedValue.types_of_ofJson accepted) built textual, row.eval_columnOf]
  constructor
  · intro accepts
    exact ⟨reading, only, accepts⟩
  · rintro ⟨other, onlyAgain, accepts⟩
    rwa [only.unique onlyAgain]

/-- Whether entries are translated does not depend on the name of their table. -/
theorem ofEntries_of_ofEntries {name : Option String} {entries : List (String × Input)}
    {predicates : List Sql.Expression} (built : ofEntries table name entries = .ok predicates)
    (other : Option String) : ∃ others, ofEntries table other entries = .ok others := by
  rcases ofEntries_cases table name entries with ⟨accepted, -⟩ | ⟨_, _, _, _, -, -, -, failed⟩
  · rcases ofEntries_cases table other entries with
      ⟨-, others, otherBuilt, -⟩ | ⟨before, entry, after, error, rfl, -, offence, -⟩
    · exact ⟨others, otherBuilt⟩
    · exact absurd (accepted entry (by simp)) offence.not_isAccepted
  · cases built.symm.trans failed

/-- The predicates of entries hold on a row when the only reading of each set key accepts what
the row holds in its field. -/
theorem forall_holds_iff {name : Option String} {entries : List (String × Input)}
    {predicates : List Sql.Expression} (engine : Engine δ)
    (built : ofEntries table name entries = .ok predicates) (row : StoredRow table δ) :
    (∀ predicate ∈ predicates, predicate.Holds engine (row.columns name)) ↔
      ∀ entry ∈ setEntries entries, ∃ reading, IsOnlyReading table entry.1 reading ∧
        reading.Accepts engine entry.2 (row.value? reading.field) := by
  have compared := compares_of_ofEntries built
  clear built
  generalize setEntries entries = given at compared
  induction compared with
  | nil => exact iff_of_true (List.forall_mem_nil _) (List.forall_mem_nil _)
  | cons first _ ih =>
      rw [List.forall_mem_cons, List.forall_mem_cons]
      exact and_congr (first.holds_iff row) ih

end Predicate

namespace Condition

open Predicate (setEntries)

/-- Filters mean what their keys say. A condition that is translated under some name, or under
none, is so under every other; and a row satisfies any of these expressions exactly when for
each set key, the only reading of the key accepts what the row holds in its field. So a read
and a write keep the same rows. -/
theorem holds_expression_iff {condition : Condition} {name : Option String}
    {expression : Sql.Expression}
    (translated : condition.expression table name = .ok expression) (other : Option String) :
    ∃ otherExpression, condition.expression table other = .ok otherExpression ∧
      ∀ {δ : Type} (engine : Engine δ) (row : StoredRow table δ),
        (otherExpression.Holds engine (row.columns other) ↔
          ∀ entry ∈ setEntries condition.entries.entries,
            ∃ reading, IsOnlyReading table entry.1 reading ∧
              reading.Accepts engine entry.2 (row.value? reading.field)) ∧
        (expression.Holds engine (row.columns name) ↔
          otherExpression.Holds engine (row.columns other)) := by
  obtain ⟨predicates, built, rfl⟩ := map_eq_ok_iff.mp translated
  obtain ⟨others, otherBuilt⟩ := Predicate.ofEntries_of_ofEntries built other
  refine ⟨.conjoin others, map_eq_ok_iff.mpr ⟨others, otherBuilt, rfl⟩, ?_⟩
  intro δ engine row
  have meaning := Predicate.forall_holds_iff engine built row
  have otherMeaning := Predicate.forall_holds_iff engine otherBuilt row
  rw [Sql.Expression.holds_conjoin_iff, Sql.Expression.holds_conjoin_iff]
  exact ⟨otherMeaning, meaning.trans otherMeaning.symm⟩

/-- A condition with a key of each kind, and a row that is kept both with the column names of a
read and with those of a write. -/
theorem holds_expression_iff_note :
    let table : TypeInfo := .table "Note"
      [("name", .string), ("age", .number), ("createdAt", .dateTime), ("author", .id)]
    let condition : Condition := (((Condition.empty.set "name_contains" (.string "50%")).set
      "createdAt_lt" (.string "2024-03-05 06:07:08:000Z")).set "age" (.integer 41)).set
      "author" .null
    let column (field : String) : Sql.Expression := .columnOf (some "Note") field
    let expression : Sql.Expression := .conjunction (.conjunction (.conjunction
      (.comparison (column "age") .equals (.constant (.integer 41)))
      (.isNull (column "author")))
      (Predicate.dated (column "createdAt") .lessThan "2024-03-05 06:07:08:000Z"))
      (Predicate.containing (column "name") "50%")
    let engine : Engine Int := {
      equal := fun
        | .whole left, .whole right => left == right
        | _, _ => false
      less := fun
        | .whole left, .whole right => decide (left < right)
        | _, _ => false
      epoch := fun
        | .own seconds => .whole seconds
        | other => other
      apply := fun
        | .toTimestamp, [.text "2024-03-05 06:07:08:000Z", .text _] => .own 1709618828
        | _, _ => .own 0
      cast := fun value _ => value
      rowToJson := fun _ => .json (.object [])
      isAmong := fun _ _ => none }
    let held : String → Option (Datum Int) := fun field =>
      if field = "name" then some (.text "save 50% now")
      else if field = "age" then some (.whole 41)
      else if field = "createdAt" then some (.own 1709600000)
      else none
    condition.expression table (some "Note") = .ok expression ∧
      ∃ row : StoredRow table Int, row.value? = held ∧
        expression.Holds engine (row.columns (some "Note")) ∧
        ∃ plain, condition.expression table none = .ok plain ∧
          plain.Holds engine (row.columns none) ∧
          ∀ entry ∈ setEntries condition.entries.entries,
            ∃ reading, IsOnlyReading table entry.1 reading ∧
              reading.Accepts engine entry.2 (held reading.field) := by
  intro table condition column expression engine held
  have translated : condition.expression table (some "Note") = .ok expression := rfl
  have textual : ∀ field type datum, table.fieldType? field = some type → type.isTextual = true →
      held field = some datum → ∃ text, datum = .text text := by
    intro field type datum declared isTextual isHeld
    by_cases isName : field = "name"
    · subst isName
      cases isHeld
      exact ⟨_, rfl⟩
    by_cases isAge : field = "age"
    · subst isAge
      cases declared
      cases isTextual
    by_cases isCreatedAt : field = "createdAt"
    · subst isCreatedAt
      cases declared
      cases isTextual
    simp only [held, isName, isAge, isCreatedAt, if_false] at isHeld
    cases isHeld
  have kept : expression.Holds engine (StoredRow.columns ⟨held, textual⟩ (some "Note")) := rfl
  obtain ⟨plain, plainTranslated, meaning⟩ := holds_expression_iff translated none
  obtain ⟨accepts, same⟩ := meaning engine ⟨held, textual⟩
  have plainKept := same.mp kept
  exact ⟨translated, ⟨held, textual⟩, rfl, kept, plain, plainTranslated, plainKept,
    accepts.mp plainKept⟩

end Condition

end CatalogSql
