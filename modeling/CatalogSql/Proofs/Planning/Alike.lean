import CatalogSql.Proofs.Keyed.Related
import CatalogSql.Proofs.Planning.Filtering
import CatalogSql.Proofs.Planning.Key
import CatalogSql.Proofs.Planning.Preparation
import CatalogSql.Proofs.Planning.Statements
import CatalogSql.Proofs.Sql.Outline

/-!
# Requests that differ in values

Two requests are alike when they differ only in values that are bound: strings stand for
strings, numbers for numbers, and values of json fields for each other unless one is null.
Planning keeps requests alike at every step, up to the expressions of their statements.
-/

namespace CatalogSql

open ResolvedKey (IsReading IsOnlyReading)

/-- Values that may stand for each other in a field, which holds documents or not. -/
inductive Json.Alike (holdsDocuments : Prop) : Json → Json → Prop where
  | refl (value : Json) : Alike holdsDocuments value value
  | strings (text other : String) : Alike holdsDocuments (.string text) (.string other)
  | numbers (number other : JsonNumber) : Alike holdsDocuments (.number number) (.number other)
  | documents {value other : Json} (holds : holdsDocuments) (notNull : value ≠ .null)
      (otherNotNull : other ≠ .null) : Alike holdsDocuments value other

theorem Json.Alike.imp {holds implied : Prop} {value other : Json}
    (alike : Json.Alike holds value other) (implies : holds → implied) :
    Json.Alike implied value other := by
  cases alike with
  | refl => exact .refl value
  | strings text other => exact .strings text other
  | numbers number other => exact .numbers number other
  | documents holds notNull otherNotNull => exact .documents (implies holds) notNull otherNotNull

/-- Inputs that are both unset or hold values that may stand for each other. -/
inductive Input.Alike (holdsDocuments : Prop) : Input → Input → Prop where
  | unset : Alike holdsDocuments .unset .unset
  | value {value other : Json} (alike : Json.Alike holdsDocuments value other) :
      Alike holdsDocuments (.value value) (.value other)

/-- Conditions on a table with the same keys, whose inputs are alike. -/
def Condition.Alike (table : TypeInfo) (condition other : Condition) : Prop :=
  Keyed.Related
    (fun key => Input.Alike (∃ reading, IsReading table key reading ∧ reading.type = .json))
    condition.entries.entries other.entries.entries

/-- Payloads for a table with the same fields in the same order, whose inputs are alike. -/
def Payload.Alike (table : TypeInfo) (payload other : Payload) : Prop :=
  Keyed.Related (fun field => Input.Alike (table.fieldType? field = some .json))
    payload.entries.entries other.entries.entries

namespace TypedValue

/-- Typed values that are bound by the same kind of placeholder, or are equal. -/
inductive Alike : TypedValue → TypedValue → Prop where
  | refl (typed : TypedValue) : Alike typed typed
  | id (text other : String) : Alike (.id text) (.id other)
  | string (text other : String) : Alike (.string text) (.string other)
  | enumeration (text other : String) : Alike (.enumeration text) (.enumeration other)
  | dateTime (text other : String) : Alike (.dateTime text) (.dateTime other)
  | json (value other : Json) : Alike (.json value) (.json other)
  | number (number other : JsonNumber) : Alike (ofNumber number) (ofNumber other)

/-- A `Json` field takes every value but `null` as it is. -/
theorem ofJson_json {table field : String} {value : Json} (notNull : value ≠ .null) :
    ofJson table field .json value = .ok (.json value) := by
  cases value with
  | null => exact absurd rfl notNull
  | _ => rfl

/-- Values that may stand for each other are typed alike. -/
theorem ofJson_alike {table field : String} {type : SemanticType} {value other : Json}
    {typed otherTyped : TypedValue} (alike : Json.Alike (type = .json) value other)
    (accepted : ofJson table field type value = .ok typed)
    (otherAccepted : ofJson table field type other = .ok otherTyped) : Alike typed otherTyped := by
  cases alike with
  | refl =>
      cases accepted.symm.trans otherAccepted
      exact .refl typed
  | strings text other =>
      cases type <;> cases accepted <;> cases otherAccepted
      · exact .id text other
      · exact .string text other
      · exact .dateTime text other
      · exact .enumeration text other
      · exact .json _ _
  | numbers number other =>
      cases type <;> cases accepted <;> cases otherAccepted
      · exact .number number other
      · exact .json _ _
  | documents holds notNull otherNotNull =>
      subst holds
      rw [ofJson_json notNull] at accepted
      rw [ofJson_json otherNotNull] at otherAccepted
      cases accepted
      cases otherAccepted
      exact .json value other

/-- A number is typed as an integer or as a double. -/
theorem ofNumber_cases (number : JsonNumber) :
    (∃ value, ofNumber number = .integer value) ∨ ∃ value, ofNumber number = .double value := by
  unfold ofNumber
  split
  · exact .inl ⟨_, rfl⟩
  · exact .inr ⟨_, rfl⟩

/-- The constants of values typed alike are alike. -/
theorem Alike.constant {typed other : TypedValue} (alike : Alike typed other) :
    Sql.Expression.Alike (.constant typed.constant) (.constant other.constant) := by
  cases alike with
  | refl => exact .refl _
  | number number other =>
      rcases ofNumber_cases number with ⟨_, shape⟩ | ⟨_, shape⟩ <;>
        rcases ofNumber_cases other with ⟨_, otherShape⟩ | ⟨_, otherShape⟩ <;>
        rw [shape, otherShape] <;> exact .bound rfl rfl
  | _ => exact .bound rfl rfl

/-- Anything but a date is written as its constant. -/
theorem written_eq_constant {typed : TypedValue} (noDate : ∀ text, typed ≠ .dateTime text) :
    typed.written = .constant typed.constant := by
  cases typed with
  | dateTime text => exact absurd rfl (noDate text)
  | _ => rfl

/-- Values typed alike are written alike. -/
theorem Alike.written {typed other : TypedValue} (alike : Alike typed other) :
    Sql.Expression.Alike typed.written other.written := by
  have constants := alike.constant
  cases alike with
  | refl => exact .refl _
  | dateTime text other => exact .cast timestampType (.bound rfl rfl)
  | number number other =>
      have noDate : ∀ (number : JsonNumber) (text : String), ofNumber number ≠ .dateTime text := by
        intro number text
        rcases ofNumber_cases number with ⟨_, shape⟩ | ⟨_, shape⟩ <;> simp [shape]
      rw [written_eq_constant (noDate number), written_eq_constant (noDate other)]
      exact constants
  | _ => exact constants

end TypedValue

namespace Predicate

open Sql (Expression)

variable {table : TypeInfo} {name : Option String}

/-- Values typed alike give predicates that are alike. -/
theorem ofValue_alike {column : Expression} {reading : ResolvedKey} {typed other : TypedValue}
    {given otherGiven : Json} {predicate otherPredicate : Expression}
    (alike : TypedValue.Alike typed other)
    (built : ofValue column reading typed given = .ok predicate)
    (otherBuilt : ofValue column reading other otherGiven = .ok otherPredicate) :
    Expression.Alike predicate otherPredicate := by
  obtain ⟨field, type, operator⟩ := reading
  have searched : ∀ text other, Expression.Alike (containing column text) (containing column other) :=
    fun text other => .comparison _ (.call _ (.refl _) (.bound rfl rfl)) (.refl _)
  have compared : ∀ {value other : Sql.Constant}, value.param?.isSome → other.param?.isSome →
      Expression.Alike (.comparison column (comparison operator) (.constant value))
        (.comparison column (comparison operator) (.constant other)) :=
    fun isBound otherIsBound => .comparison _ (.refl _) (.bound isBound otherIsBound)
  cases alike with
  | refl => cases operator <;> cases typed <;> cases built <;> cases otherBuilt <;> exact .refl _
  | id text other =>
      cases operator <;> cases built <;> cases otherBuilt <;> first
        | exact searched text other
        | exact compared rfl rfl
  | string text other =>
      cases operator <;> cases built <;> cases otherBuilt <;> first
        | exact searched text other
        | exact compared rfl rfl
  | enumeration text other =>
      cases operator <;> cases built <;> cases otherBuilt <;> first
        | exact searched text other
        | exact compared rfl rfl
  | dateTime text other =>
      have dates : Expression.Alike (dated column operator text) (dated column operator other) :=
        .comparison _ (.refl _) (.epoch (.call _ (.bound rfl rfl) (.refl _)))
      cases operator <;> cases built <;> cases otherBuilt <;> exact dates
  | json value other => cases operator <;> cases built <;> cases otherBuilt <;> exact compared rfl rfl
  | number number other =>
      rcases TypedValue.ofNumber_cases number with ⟨_, shape⟩ | ⟨_, shape⟩ <;>
        rcases TypedValue.ofNumber_cases other with ⟨_, otherShape⟩ | ⟨_, otherShape⟩ <;>
        rw [shape] at built <;> rw [otherShape] at otherBuilt <;>
        cases operator <;> cases built <;> cases otherBuilt <;> exact compared rfl rfl

/-- Inputs that are alike give predicates that are alike, or none. -/
theorem ofEntry_alike {key : String} {input other : Input}
    {predicate otherPredicate : Option Expression}
    (alike : Input.Alike (∃ reading, IsReading table key reading ∧ reading.type = .json) input other)
    (built : ofEntry table name key input = .ok predicate)
    (otherBuilt : ofEntry table name key other = .ok otherPredicate) :
    List.Forall₂ Expression.Alike predicate.toList otherPredicate.toList := by
  cases alike with
  | unset =>
      obtain ⟨reading, resolved, isNone⟩ := bind_eq_ok_iff.mp built
      obtain ⟨again, resolvedAgain, otherIsNone⟩ := bind_eq_ok_iff.mp otherBuilt
      cases isNone
      cases otherIsNone
      exact .nil
  | @value value other values =>
      obtain ⟨reading, typed, _, only, accepted, isBuilt, rfl⟩ := ofEntry_value_eq_ok_iff.mp built
      obtain ⟨again, otherTyped, _, onlyAgain, otherAccepted, otherIsBuilt, rfl⟩ :=
        ofEntry_value_eq_ok_iff.mp otherBuilt
      obtain rfl := only.unique onlyAgain
      have ofType : Json.Alike (reading.type = .json) value other := by
        refine values.imp ?_
        rintro ⟨found, isReading, isJson⟩
        rwa [only.alone found isReading] at isJson
      have typedAlike := TypedValue.ofJson_alike ofType accepted otherAccepted
      exact .cons (ofValue_alike typedAlike isBuilt otherIsBuilt) .nil

/-- Entries that are alike give predicates that are alike, one by one. -/
theorem ofEntries_alike {entries others : List (String × Input)}
    {predicates otherPredicates : List Expression}
    (alike : Keyed.Related
      (fun key => Input.Alike (∃ reading, IsReading table key reading ∧ reading.type = .json))
      entries others)
    (built : ofEntries table name entries = .ok predicates)
    (otherBuilt : ofEntries table name others = .ok otherPredicates) :
    List.Forall₂ Expression.Alike predicates otherPredicates := by
  induction alike generalizing predicates otherPredicates with
  | nil =>
      cases built
      cases otherBuilt
      exact .nil
  | @cons entry other _ _ head _ ih =>
      obtain ⟨key, input⟩ := entry
      obtain ⟨_, otherInput⟩ := other
      obtain ⟨rfl, inputs⟩ := head
      obtain ⟨_, _, firstBuilt, restBuilt, rfl⟩ := ofEntries_cons_eq_ok_iff.mp built
      obtain ⟨_, _, otherFirstBuilt, otherRestBuilt, rfl⟩ := ofEntries_cons_eq_ok_iff.mp otherBuilt
      exact List.rel_append (ofEntry_alike inputs firstBuilt otherFirstBuilt)
        (ih restBuilt otherRestBuilt)

end Predicate

/-- Conditions that are alike have expressions that are alike. -/
theorem Condition.Alike.expression {table : TypeInfo} {name : Option String}
    {condition other : Condition} {expression otherExpression : Sql.Expression}
    (alike : Condition.Alike table condition other)
    (built : condition.expression table name = .ok expression)
    (otherBuilt : other.expression table name = .ok otherExpression) :
    Sql.Expression.Alike expression otherExpression := by
  obtain ⟨predicates, areBuilt, rfl⟩ := map_eq_ok_iff.mp built
  obtain ⟨otherPredicates, othersBuilt, rfl⟩ := map_eq_ok_iff.mp otherBuilt
  exact .conjoin (Predicate.ofEntries_alike alike areBuilt othersBuilt)

/-- What stands for a text is a text where no documents are held. -/
theorem Input.Alike.isText_iff {holdsDocuments : Prop} {input other : Input}
    (alike : Input.Alike holdsDocuments input other) (noDocuments : ¬ holdsDocuments) :
    (∃ text, input = .value (.string text)) ↔ ∃ text, other = .value (.string text) := by
  cases alike with
  | unset => rfl
  | value values =>
      cases values with
      | refl => rfl
      | strings text other => exact ⟨fun _ => ⟨other, rfl⟩, fun _ => ⟨text, rfl⟩⟩
      | numbers number other => constructor <;> rintro ⟨text, ⟨⟩⟩
      | documents holds => exact absurd holds noDocuments

namespace Payload

variable {table : TypeInfo}

/-- Truncating dates keeps inputs alike: a date is a text before and after. -/
theorem truncateInput_alike {field : String} {input other truncated otherTruncated : Input}
    (alike : Input.Alike (table.fieldType? field = some .json) input other)
    (isTruncated : truncateInput table field input = .ok truncated)
    (otherIsTruncated : truncateInput table field other = .ok otherTruncated) :
    Input.Alike (table.fieldType? field = some .json) truncated otherTruncated := by
  have noDocuments : table.fieldType? field = some .dateTime → ¬ table.fieldType? field = some .json := by
    intro isDate isJson
    cases isDate.symm.trans isJson
  rcases truncateInput_eq_ok_iff.mp isTruncated with
    ⟨text, stored, isDate, rfl, -, rfl⟩ | ⟨noDate, rfl⟩
  · rcases truncateInput_eq_ok_iff.mp otherIsTruncated with
      ⟨_, otherStored, -, rfl, -, rfl⟩ | ⟨otherNoDate, rfl⟩
    · exact .value (.strings stored otherStored)
    · obtain ⟨otherText, isText⟩ := (alike.isText_iff (noDocuments isDate)).mp ⟨text, rfl⟩
      exact absurd isText (otherNoDate otherText isDate)
  · rcases truncateInput_eq_ok_iff.mp otherIsTruncated with
      ⟨otherText, _, isDate, rfl, -, rfl⟩ | ⟨-, rfl⟩
    · obtain ⟨text, isText⟩ := (alike.isText_iff (noDocuments isDate)).mpr ⟨otherText, rfl⟩
      exact absurd isText (noDate text isDate)
    · exact alike

/-- Entries alike stay alike when they are truncated. -/
theorem truncateEntries_alike {entries others truncated otherTruncated : List (String × Input)}
    (alike : Keyed.Related (fun field => Input.Alike (table.fieldType? field = some .json))
      entries others)
    (areTruncated : truncateEntries table entries = .ok truncated)
    (othersTruncated : truncateEntries table others = .ok otherTruncated) :
    Keyed.Related (fun field => Input.Alike (table.fieldType? field = some .json)) truncated
      otherTruncated := by
  induction alike generalizing truncated otherTruncated with
  | nil =>
      cases areTruncated
      cases othersTruncated
      exact .nil
  | @cons entry other _ _ head _ ih =>
      obtain ⟨field, input⟩ := entry
      obtain ⟨_, otherInput⟩ := other
      obtain ⟨rfl, inputs⟩ := head
      obtain ⟨_, _, firstTruncated, restTruncated, rfl⟩ :=
        truncateEntries_cons_eq_ok_iff.mp areTruncated
      obtain ⟨_, _, otherFirstTruncated, otherRestTruncated, rfl⟩ :=
        truncateEntries_cons_eq_ok_iff.mp othersTruncated
      have first := truncateInput_alike inputs firstTruncated otherFirstTruncated
      exact .cons ⟨rfl, first⟩ (ih restTruncated otherRestTruncated)

namespace Alike

variable {payload other prepared otherPrepared : Payload}

/-- Payloads alike stay alike when an update is prepared. -/
theorem prepareUpdate (alike : Alike table payload other)
    (isPrepared : payload.prepareUpdate table = .ok prepared)
    (otherIsPrepared : other.prepareUpdate table = .ok otherPrepared) :
    Alike table prepared otherPrepared := by
  obtain ⟨entries, areTruncated, rfl⟩ := map_eq_ok_iff.mp isPrepared
  obtain ⟨others, othersTruncated, rfl⟩ := map_eq_ok_iff.mp otherIsPrepared
  exact (truncateEntries_alike alike areTruncated othersTruncated).ofList

/-- The set values of payloads that are alike may stand for each other. -/
theorem values (alike : Alike table payload other) :
    Keyed.Related (fun field => Json.Alike (table.fieldType? field = some .json)) payload.values
      other.values := by
  unfold Payload.values
  unfold Alike at alike
  generalize payload.entries.entries = entries, other.entries.entries = others at alike ⊢
  induction alike with
  | nil => exact .nil
  | @cons entry other _ _ head _ ih =>
      obtain ⟨field, input⟩ := entry
      obtain ⟨_, otherInput⟩ := other
      obtain ⟨rfl, inputs⟩ := head
      cases inputs with
      | unset => exact ih
      | value values => exact .cons ⟨rfl, values⟩ ih

/-- Setting fields one by one inserts their values. -/
theorem entries_foldl_set {Value : Type} (given : List (String × Value)) (change : Value → Json)
    (row : Payload) :
    (given.foldl (fun row entry => row.set entry.1 (change entry.2)) row).entries =
      given.foldl (fun map entry => map.insert entry.1 (.value (change entry.2))) row.entries := by
  induction given generalizing row with
  | nil => rfl
  | cons entry rest ih => exact ih (row.set entry.1 (change entry.2))

/-- Setting fields to values that may stand for each other keeps rows alike. -/
theorem foldl_set {Value : Type} {relation : String → Value → Value → Prop}
    {given others : List (String × Value)} {change : Value → Json} {row otherRow : Payload}
    (related : Keyed.Related relation given others)
    (step : ∀ field value other, relation field value other →
      Json.Alike (table.fieldType? field = some .json) (change value) (change other))
    (rows : Alike table row otherRow) :
    Alike table (given.foldl (fun row entry => row.set entry.1 (change entry.2)) row)
      (others.foldl (fun row entry => row.set entry.1 (change entry.2)) otherRow) := by
  rw [Alike, entries_foldl_set, entries_foldl_set]
  exact related.foldl_insert (fun field value other values => .value (step field value other values))
    rows

/-- The defaults of two rows are alike. -/
theorem defaults (table : TypeInfo) (id otherId now otherNow : String) :
    Alike table (defaults table id now) (Payload.defaults table otherId otherNow) := by
  have declared : ∀ field value otherValue : String,
      Keyed.Related (fun _ _ _ => True)
        (if (table.fieldType? field).isSome then [(field, value)] else [])
        (if (table.fieldType? field).isSome then [(field, otherValue)] else []) := by
    intro field value otherValue
    split
    · exact .cons ⟨rfl, trivial⟩ .nil
    · exact .nil
  have related := ((declared idField id otherId).append
    (declared createdField now otherNow)).append (declared updatedField now otherNow)
  exact foldl_set related (fun _ text other _ => .strings text other) .nil

/-- Rows prepared for insertion are alike, whatever their identifiers and times. -/
theorem prepareInsert {explicitId otherExplicitId : Option String}
    {freshId otherFreshId now otherNow : String} (alike : Alike table payload other)
    (bothGiven : explicitId.isSome = otherExplicitId.isSome)
    (isPrepared : payload.prepareInsert table explicitId freshId now = .ok prepared)
    (otherIsPrepared : other.prepareInsert table otherExplicitId otherFreshId otherNow =
      .ok otherPrepared) : Alike table prepared otherPrepared := by
  obtain ⟨truncated, isTruncated, same⟩ := bind_eq_ok_iff.mp isPrepared
  obtain ⟨otherTruncated, otherIsTruncated, otherSame⟩ := bind_eq_ok_iff.mp otherIsPrepared
  cases same
  cases otherSame
  have values := (alike.prepareUpdate isTruncated otherIsTruncated).values
  rw [bothGiven]
  exact foldl_set
    (values.filter fun field => !(field == idField && otherExplicitId.isSome))
    (fun _ _ _ => id) (defaults table _ _ now otherNow)

end Alike

end Payload

namespace Scope

/-- Values alike are written alike. -/
theorem writtenValue_alike {table : TypeInfo} {field : String} {value other : Json}
    {written otherWritten : Sql.Expression}
    (alike : Json.Alike (table.fieldType? field = some .json) value other)
    (isWritten : writtenValue table field value = .ok written)
    (otherIsWritten : writtenValue table field other = .ok otherWritten) :
    Sql.Expression.Alike written otherWritten := by
  obtain ⟨type, typed, declared, accepted, rfl⟩ := writtenValue_eq_ok_iff.mp isWritten
  obtain ⟨_, otherTyped, declaredAgain, otherAccepted, rfl⟩ :=
    writtenValue_eq_ok_iff.mp otherIsWritten
  cases declared.symm.trans declaredAgain
  have ofType : Json.Alike (type = .json) value other := by
    refine alike.imp ?_
    intro isJson
    rw [declared] at isJson
    exact Option.some.inj isJson
  exact (TypedValue.ofJson_alike ofType accepted otherAccepted).written

/-- Values that may stand for each other are written alike. -/
theorem writtenValues_alike {table : TypeInfo} {values others : List (String × Json)}
    {written otherWritten : List (String × Sql.Expression)}
    (alike : Keyed.Related (fun field => Json.Alike (table.fieldType? field = some .json)) values
      others)
    (areWritten : writtenValues table values = .ok written)
    (othersWritten : writtenValues table others = .ok otherWritten) :
    Sql.EntriesAlike written otherWritten := by
  induction alike generalizing written otherWritten with
  | nil =>
      cases areWritten
      cases othersWritten
      exact .nil
  | @cons entry other _ _ head _ ih =>
      obtain ⟨field, value⟩ := entry
      obtain ⟨_, otherValue⟩ := other
      obtain ⟨rfl, values⟩ := head
      obtain ⟨_, _, firstWritten, restWritten, rfl⟩ := writtenValues_cons_eq_ok_iff.mp areWritten
      obtain ⟨_, _, otherFirstWritten, otherRestWritten, rfl⟩ :=
        writtenValues_cons_eq_ok_iff.mp othersWritten
      have first := writtenValue_alike values firstWritten otherFirstWritten
      exact .cons ⟨rfl, first⟩ (ih restWritten otherRestWritten)

end Scope

end CatalogSql
