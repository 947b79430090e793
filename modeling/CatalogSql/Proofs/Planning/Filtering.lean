import CatalogSql.Planning.Predicate
import CatalogSql.Proofs.Failing
import CatalogSql.Proofs.Keyed.Sorted
import CatalogSql.Proofs.Planning.Key
import CatalogSql.Proofs.Sql.References

/-!
# The predicates of conditions

What a condition asks is decided entry by entry, in the order of the keys. An entry is
accepted when its key has one reading and its value, if it is set, fits that reading; any
other entry has an offence, which names the error. A condition of accepted entries gives
one predicate for each set key, and any other fails with the offence of its first entry
that has one.
-/

namespace CatalogSql

open ResolvedKey (IsReading IsOnlyReading)

/-- What every element is related to by a relation that grants a property has the property. -/
theorem forall_mem_of_forall₂ {First Second : Type} {relation : First → Second → Prop}
    {property : Second → Prop} {firsts : List First} {seconds : List Second}
    (related : List.Forall₂ relation firsts seconds)
    (granted : ∀ first second, relation first second → property second) :
    ∀ second ∈ seconds, property second := by
  induction related with
  | nil => exact List.forall_mem_nil _
  | cons head _ ih => exact List.forall_mem_cons.mpr ⟨granted _ _ head, ih⟩

/-- A value that the field of a reading takes and its operator compares with. -/
structure ResolvedKey.Fits (table : TypeInfo) (reading : ResolvedKey) (value : Json) : Prop where
  typed : ∃ typed, TypedValue.ofJson table.name reading.field reading.type value = .ok typed ∧
    (reading.operator = .contains → ∃ text, typed.text? = some text)
  notNull : reading.operator = .lessThan → value ≠ .null

/-- An entry of a condition that is no error: its key has one reading, and its value fits
that reading when the key is set. -/
def Condition.IsAccepted (table : TypeInfo) (entry : String × Input) : Prop :=
  ∃ reading, IsOnlyReading table entry.1 reading ∧
    ∀ value, entry.2 = .value value → reading.Fits table value

/-- What is wrong with an entry of a condition, and the error that says so. -/
inductive Condition.Offence (table : TypeInfo) : String × Input → RequestError → Prop where
  | unread {key : String} {input : Input} (none : ∀ reading, ¬ IsReading table key reading) :
      Offence table (key, input) (.unsupportedOperator key table.name)
  | ambiguous {key : String} {input : Input} {first second : ResolvedKey}
      (isFirst : IsReading table key first) (isSecond : IsReading table key second)
      (differ : first ≠ second) : Offence table (key, input) (.ambiguousKey key table.name)
  | untyped {key : String} {value : Json} {reading : ResolvedKey} {error : RequestError}
      (only : IsOnlyReading table key reading)
      (refused : TypedValue.ofJson table.name reading.field reading.type value = .error error) :
      Offence table (key, .value value) error
  | noText {key : String} {value : Json} {reading : ResolvedKey} {typed : TypedValue}
      (only : IsOnlyReading table key reading)
      (accepted : TypedValue.ofJson table.name reading.field reading.type value = .ok typed)
      (contains : reading.operator = .contains) (noText : typed.text? = none) :
      Offence table (key, .value value) (.typeMismatch reading.field reading.type value)
  | nullBound {key : String} {reading : ResolvedKey} {typed : TypedValue}
      (only : IsOnlyReading table key reading)
      (accepted : TypedValue.ofJson table.name reading.field reading.type .null = .ok typed)
      (lessThan : reading.operator = .lessThan) :
      Offence table (key, .value .null) (.typeMismatch reading.field reading.type .null)

/-- An offending entry is not accepted. -/
theorem Condition.Offence.not_isAccepted {table : TypeInfo} {entry : String × Input}
    {error : RequestError} (offence : Offence table entry error) : ¬ IsAccepted table entry := by
  rintro ⟨reading, only, fits⟩
  cases offence with
  | unread none => exact none reading only.isReading
  | ambiguous isFirst isSecond differ =>
      exact differ ((only.alone _ isFirst).trans (only.alone _ isSecond).symm)
  | untyped other refused =>
      obtain rfl := only.unique other
      obtain ⟨typed, accepted, _⟩ := (fits _ rfl).typed
      rw [refused] at accepted
      cases accepted
  | noText other accepted contains noText =>
      obtain rfl := only.unique other
      obtain ⟨typed, typedAgain, hasText⟩ := (fits _ rfl).typed
      obtain ⟨text, isText⟩ := hasText contains
      rw [accepted] at typedAgain
      cases typedAgain
      rw [noText] at isText
      cases isText
  | nullBound other accepted lessThan =>
      obtain rfl := only.unique other
      exact (fits _ rfl).notNull lessThan rfl

/-- Null is typed as null, and nothing else is. -/
theorem TypedValue.ofJson_eq_null {table field : String} {type : SemanticType} {value : Json}
    {typed : TypedValue} (accepted : TypedValue.ofJson table field type value = .ok typed) :
    typed = .null ↔ value = .null := by
  have ofNumber_ne : ∀ number, TypedValue.ofNumber number ≠ .null := by
    intro number
    unfold TypedValue.ofNumber
    split <;> simp
  cases type <;> cases value <;> cases accepted <;> simp [ofNumber_ne]

namespace Predicate

open Condition (IsAccepted Offence)
open Sql.Expression (references listReferences reads listReads)

variable {table : TypeInfo} {name : Option String}

/-- A predicate for an entry: it names the column of the field that the key reads as, and no
other. -/
def IsFor (table : TypeInfo) (name : Option String) (key : String) (predicate : Sql.Expression) :
    Prop :=
  ∃ reading, IsOnlyReading table key reading ∧
    predicate.references = [.named name reading.field]

/-- A predicate names the columns, and nests the reads, of the column it is about. -/
theorem columns_of_ofValue {column predicate : Sql.Expression} {reading : ResolvedKey}
    {typed : TypedValue} {given : Json}
    (built : ofValue column reading typed given = .ok predicate) :
    predicate.references = column.references ∧ predicate.reads = column.reads := by
  unfold ofValue at built
  split at built
  · split at built
    · cases built
      simp [containing, references, listReferences, reads, listReads]
    · cases built
  · cases built
    exact ⟨rfl, rfl⟩
  · cases built
  · cases built
    simp [dated, references, listReferences, reads, listReads]
  · cases built
    simp [references, reads]

/-- A typed value that is no null is compared with its column, under either operator that
compares. -/
theorem ofValue_compared {reading : ResolvedKey} {value : Json} {typed : TypedValue}
    (column : Sql.Expression) (compares : reading.operator ≠ .contains)
    (notNull : reading.operator = .lessThan → typed ≠ .null) :
    ∃ predicate, ofValue column reading typed value = .ok predicate := by
  obtain ⟨field, type, operator⟩ := reading
  cases operator with
  | contains => exact absurd rfl compares
  | equals => cases typed <;> exact ⟨_, rfl⟩
  | lessThan =>
      cases typed with
      | null => exact absurd rfl (notNull rfl)
      | _ => exact ⟨_, rfl⟩

/-- A typed value gives a predicate of its column when it fits, and has an offence
otherwise. -/
theorem ofValue_cases {key : String} {reading : ResolvedKey} {value : Json} {typed : TypedValue}
    (column : Sql.Expression) (only : IsOnlyReading table key reading)
    (accepted : TypedValue.ofJson table.name reading.field reading.type value = .ok typed) :
    (reading.Fits table value ∧ ∃ predicate, ofValue column reading typed value = .ok predicate) ∨
      ∃ error, Offence table (key, .value value) error ∧
        ofValue column reading typed value = .error error := by
  by_cases contains : reading.operator = .contains
  · cases hasText : typed.text? with
    | none =>
        refine .inr ⟨_, .noText only accepted contains hasText, ?_⟩
        simp only [ofValue, contains, hasText]
    | some text =>
        have isNotNull : reading.operator = .lessThan → value ≠ .null := by
          rw [contains]
          rintro ⟨⟩
        refine .inl ⟨⟨⟨typed, accepted, fun _ => ⟨text, hasText⟩⟩, isNotNull⟩,
          containing column text, ?_⟩
        simp only [ofValue, contains, hasText]
  · by_cases nullBound : reading.operator = .lessThan ∧ typed = .null
    · obtain ⟨lessThan, rfl⟩ := nullBound
      obtain rfl := (TypedValue.ofJson_eq_null accepted).mp rfl
      refine .inr ⟨_, .nullBound only accepted lessThan, ?_⟩
      simp only [ofValue, lessThan]
    · have notNull : reading.operator = .lessThan → typed ≠ .null :=
        fun lessThan isNull => nullBound ⟨lessThan, isNull⟩
      refine .inl ⟨⟨⟨typed, accepted, fun isContains => absurd isContains contains⟩, ?_⟩,
        ofValue_compared column contains notNull⟩
      intro lessThan isNull
      exact notNull lessThan ((TypedValue.ofJson_eq_null accepted).mpr isNull)

/-- The keys that are set in entries, with their values. -/
def setEntries (entries : List (String × Input)) : List (String × Json) :=
  entries.filterMap fun entry => entry.2.value?.map fun value => (entry.1, value)

theorem setEntries_cons (entry : String × Input) (rest : List (String × Input)) :
    setEntries (entry :: rest) = setEntries [entry] ++ setEntries rest :=
  List.filterMap_append (l := [entry])

/-- An entry is accepted, and gives a predicate when its key is set, or it has an offence. -/
theorem ofEntry_cases (table : TypeInfo) (name : Option String) (key : String) (input : Input) :
    (IsAccepted table (key, input) ∧ ∃ predicate, ofEntry table name key input = .ok predicate ∧
        List.Forall₂ (fun entry => IsFor table name entry.1) (setEntries [(key, input)])
          predicate.toList) ∨
      ∃ error, Offence table (key, input) error ∧ ofEntry table name key input = .error error := by
  unfold ofEntry
  rcases ResolvedKey.resolve_cases table key with
    ⟨reading, only, resolved⟩ | ⟨none, resolved⟩ | ⟨first, second, isFirst, isSecond, differ, resolved⟩
  · rw [resolved]
    cases input with
    | unset =>
        refine .inl ⟨⟨reading, only, ?_⟩, none, rfl, .nil⟩
        rintro value ⟨⟩
    | value value =>
        cases typedAs : TypedValue.ofJson table.name reading.field reading.type value with
        | error error =>
            refine .inr ⟨error, .untyped only typedAs, ?_⟩
            simp only [bind, Except.bind, typedAs]
        | ok typed =>
            rcases ofValue_cases (.columnOf name reading.field) only typedAs with
              ⟨fits, predicate, built⟩ | ⟨error, offence, failed⟩
            · refine .inl ⟨⟨reading, only, ?_⟩, some predicate, ?_, ?_⟩
              · rintro _ ⟨⟩
                exact fits
              · simp only [bind, Except.bind, typedAs, built]
                rfl
              · have references := (columns_of_ofValue built).1
                rw [Sql.references_columnOf] at references
                exact .cons ⟨reading, only, references⟩ .nil
            · refine .inr ⟨error, offence, ?_⟩
              simp only [bind, Except.bind, typedAs, failed]
  · rw [resolved]
    exact .inr ⟨_, .unread none, rfl⟩
  · rw [resolved]
    exact .inr ⟨_, .ambiguous isFirst isSecond differ, rfl⟩

/-- Entries are all accepted, and give one predicate for each set key in their order, or
fail with an offence of the first that is not. -/
theorem ofEntries_cases (table : TypeInfo) (name : Option String)
    (entries : List (String × Input)) :
    ((∀ entry ∈ entries, IsAccepted table entry) ∧
        ∃ predicates, ofEntries table name entries = .ok predicates ∧
          List.Forall₂ (fun entry => IsFor table name entry.1) (setEntries entries) predicates) ∨
      ∃ before entry after error, entries = before ++ entry :: after ∧
        (∀ earlier ∈ before, IsAccepted table earlier) ∧ Offence table entry error ∧
        ofEntries table name entries = .error error := by
  induction entries with
  | nil => exact .inl ⟨List.forall_mem_nil _, [], rfl, .nil⟩
  | cons entry rest ih =>
      obtain ⟨key, input⟩ := entry
      simp only [ofEntries]
      rcases ofEntry_cases table name key input with
        ⟨accepted, predicate, built, isFor⟩ | ⟨error, offence, failed⟩
      · rw [built]
        rcases ih with
          ⟨allAccepted, predicates, following, areFor⟩ |
            ⟨before, offender, after, error, rfl, earlier, offence, failed⟩
        · rw [following]
          refine .inl ⟨List.forall_mem_cons.mpr ⟨accepted, allAccepted⟩,
            predicate.toList ++ predicates, rfl, ?_⟩
          rw [setEntries_cons]
          exact List.rel_append isFor areFor
        · rw [failed]
          exact .inr ⟨(key, input) :: before, offender, after, error, rfl,
            List.forall_mem_cons.mpr ⟨accepted, earlier⟩, offence, rfl⟩
      · rw [failed]
        exact .inr ⟨[], (key, input), rest, error, rfl, List.forall_mem_nil _, offence, rfl⟩

/-- A set key gives the predicate of the value typed for its only reading. -/
theorem ofEntry_value_eq_ok_iff {key : String} {value : Json} {predicate : Option Sql.Expression} :
    ofEntry table name key (.value value) = .ok predicate ↔
      ∃ reading typed built, IsOnlyReading table key reading ∧
        TypedValue.ofJson table.name reading.field reading.type value = .ok typed ∧
        ofValue (.columnOf name reading.field) reading typed value = .ok built ∧
        predicate = some built := by
  rw [ofEntry]
  simp only [bind_eq_ok_iff, ResolvedKey.resolve_eq_ok_iff]
  constructor
  · rintro ⟨reading, only, typed, accepted, built, isBuilt, same⟩
    cases same
    exact ⟨reading, typed, built, only, accepted, isBuilt, rfl⟩
  · rintro ⟨reading, typed, built, only, accepted, isBuilt, rfl⟩
    exact ⟨reading, only, typed, accepted, built, isBuilt, rfl⟩

/-- Predicates are built entry by entry. -/
theorem ofEntries_cons_eq_ok_iff {key : String} {input : Input} {rest : List (String × Input)}
    {predicates : List Sql.Expression} :
    ofEntries table name ((key, input) :: rest) = .ok predicates ↔
      ∃ predicate following, ofEntry table name key input = .ok predicate ∧
        ofEntries table name rest = .ok following ∧
        predicates = predicate.toList ++ following := by
  rw [ofEntries]
  simp only [bind_eq_ok_iff]
  constructor
  · rintro ⟨predicate, isBuilt, following, restBuilt, same⟩
    cases same
    exact ⟨predicate, following, isBuilt, restBuilt, rfl⟩
  · rintro ⟨predicate, following, isBuilt, restBuilt, rfl⟩
    exact ⟨predicate, isBuilt, following, restBuilt, rfl⟩

/-- A predicate that a set key gives: the column its only reading names, compared with the
value typed for that reading. -/
def Compares (table : TypeInfo) (name : Option String) (entry : String × Json)
    (predicate : Sql.Expression) : Prop :=
  ∃ reading typed, IsOnlyReading table entry.1 reading ∧
    TypedValue.ofJson table.name reading.field reading.type entry.2 = .ok typed ∧
    ofValue (.columnOf name reading.field) reading typed entry.2 = .ok predicate

/-- A predicate of a condition names the column its key reads as, and nests no read. -/
theorem Compares.columns {entry : String × Json} {predicate : Sql.Expression}
    (compares : Compares table name entry predicate) :
    IsFor table name entry.1 predicate ∧ predicate.reads = [] := by
  obtain ⟨reading, typed, only, -, built⟩ := compares
  obtain ⟨references, reads⟩ := columns_of_ofValue built
  rw [Sql.references_columnOf] at references
  rw [Sql.reads_columnOf] at reads
  exact ⟨⟨reading, only, references⟩, reads⟩

/-- The predicates of entries are those of the set keys, in order. -/
theorem compares_of_ofEntries {entries : List (String × Input)}
    {predicates : List Sql.Expression} (built : ofEntries table name entries = .ok predicates) :
    List.Forall₂ (Compares table name) (setEntries entries) predicates := by
  induction entries generalizing predicates with
  | nil =>
      cases built
      exact .nil
  | cons entry rest ih =>
      obtain ⟨key, input⟩ := entry
      obtain ⟨predicate, following, isBuilt, restBuilt, rfl⟩ := ofEntries_cons_eq_ok_iff.mp built
      rw [setEntries_cons]
      refine List.rel_append ?_ (ih restBuilt)
      cases input with
      | unset =>
          obtain ⟨reading, -, isNone⟩ := bind_eq_ok_iff.mp isBuilt
          cases isNone
          exact .nil
      | value value =>
          obtain ⟨reading, typed, shape, only, accepted, compared, rfl⟩ :=
            ofEntry_value_eq_ok_iff.mp isBuilt
          exact .cons ⟨reading, typed, only, accepted, compared⟩ .nil

end Predicate

end CatalogSql
