import CatalogSql.Proofs.Planning.Filtering
import CatalogSql.Proofs.Planning.Statements
import CatalogSql.Proofs.Sql.Restriction
import CatalogSql.Proofs.Sql.Wrapping

/-!
# Filters are kept

A planned read, update or removal writes the conjunction of its condition's predicates.
Only the conjunction of none is the constant true, which is left out, so the statement is
restricted unless no key of the condition is set.
-/

namespace CatalogSql

namespace Sql

/-- An expression that is the conjunction of predicates in their order, nested to the left; that
of none is the constant true. -/
inductive Expression.IsConjunctionOf : Expression → List Expression → Prop where
  | none : IsConjunctionOf (.constant (.boolean true)) []
  | one (predicate : Expression) : IsConjunctionOf predicate [predicate]
  | more {conjunction : Expression} {front : List Expression} (someFront : front ≠ [])
      (ofFront : IsConjunctionOf conjunction front) (last : Expression) :
      IsConjunctionOf (.conjunction conjunction last) (front ++ [last])

/-- Conjoining predicates gives their conjunction. -/
theorem Expression.isConjunctionOf_conjoin (predicates : List Expression) :
    (conjoin predicates).IsConjunctionOf predicates := by
  cases predicates with
  | nil => exact .none
  | cons first rest =>
      -- The predicates are folded in from the left, so the last one stands outermost.
      induction rest using List.reverseRecOn with
      | nil => exact .one first
      | append_singleton front last ih =>
          have outermost : conjoin (first :: (front ++ [last])) =
              .conjunction (conjoin (first :: front)) last :=
            List.foldl_concat ..
          rw [outermost]
          exact .more (List.cons_ne_nil first front) ih last

namespace Statement

/-- The condition on the rows that a statement reads or writes. -/
def condition? : Statement → Option Expression
  | .select read => some read.condition
  | .update change => some change.condition
  | .deletion removal => some removal.condition
  | .insertion _ => none

/-- The name that a statement gives to the table whose rows it reads. -/
def rootName? : Statement → Option String
  | .select read =>
      match read.source with
      | some (.table _ name) => some name
      | _ => none
  | _ => none

end Statement

end Sql

namespace Predicate

variable {table : TypeInfo} {name : Option String}

/-- No predicate of a key is `TRUE`. -/
theorem IsFor.ne_always {key : String} {predicate : Sql.Expression}
    (isFor : IsFor table name key predicate) : predicate ≠ .always := by
  rintro rfl
  obtain ⟨reading, only, references⟩ := isFor
  cases references

/-- A conjunction of predicates is the constant true when there are none. -/
theorem conjoin_eq_always_iff {predicates : List Sql.Expression}
    (each : ∀ predicate ∈ predicates, predicate ≠ .always) :
    Sql.Expression.conjoin predicates = .always ↔ predicates = [] := by
  constructor
  · intro always
    cases predicates with
    | nil => rfl
    | cons first rest =>
        rcases List.eq_nil_or_concat rest with rfl | ⟨front, last, rfl⟩
        · exact absurd always (each first (by simp))
        · rw [Sql.Expression.conjoin, List.concat_eq_append, List.foldl_append] at always
          cases always
  · rintro rfl
    rfl

/-- No predicate of a condition is `TRUE`. -/
theorem forall_ne_always {entries : List (String × Input)} {predicates : List Sql.Expression}
    (built : ofEntries table name entries = .ok predicates) :
    ∀ predicate ∈ predicates, predicate ≠ .always :=
  forall_mem_of_forall₂ (compares_of_ofEntries built)
    fun _ _ compares => compares.columns.1.ne_always

/-- The expression of a condition is the constant true when no key is set. -/
theorem expression_eq_always_iff {condition : Condition} {expression : Sql.Expression}
    (built : condition.expression table name = .ok expression) :
    expression = .always ↔ setEntries condition.entries.entries = [] := by
  obtain ⟨predicates, areBuilt, rfl⟩ := map_eq_ok_iff.mp built
  have compares := compares_of_ofEntries areBuilt
  rw [conjoin_eq_always_iff (forall_ne_always areBuilt)]
  constructor
  · rintro rfl
    exact List.forall₂_nil_right_iff.mp compares
  · intro none
    rw [none] at compares
    exact List.forall₂_nil_left_iff.mp compares

end Predicate

namespace Projection

open Sql (Quiet)

theorem quiet_columnOf (name : Option String) (column : String) :
    Quiet (Sql.Expression.columnOf name column).pieces := by
  cases name with
  | none => exact .columnReference _
  | some name => exact .columnReference _

/-- The columns of a selection are quiet. -/
theorem quiet_ofSelection (table : TypeInfo) (selection : Selection) (name : Option String) :
    ∀ entry ∈ ofSelection table selection name, Quiet entry.2.pieces := by
  intro entry mem
  cases selection with
  | fields names =>
      obtain ⟨field, -, rfl⟩ := List.mem_map.mp mem
      exact quiet_columnOf name field
  | all =>
      obtain ⟨⟨field, type⟩, -, rfl⟩ := List.mem_map.mp mem
      have column := quiet_columnOf name field
      cases type with
      | dateTime =>
          refine .words rfl (.words rfl (.append (.commaSeparated ?_) (.words rfl .nil)))
          exact List.forall_mem_cons.mpr ⟨column, List.forall_mem_cons.mpr
            ⟨.literal _ .nil, List.forall_mem_nil _⟩⟩
      | json =>
          exact .words rfl (column.append (.words rfl (.identifier _
            (.words rfl .nil))))
      | _ => exact column

/-- The returned columns are quiet. -/
theorem quiet_returning (table : TypeInfo) : Quiet (Sql.returningPieces (returning table)) := by
  refine .returningPieces ?_
  intro entry mem
  obtain ⟨field, -, rfl⟩ := List.mem_map.mp mem
  exact quiet_columnOf none field

end Projection

namespace Scope

open Sql (Quiet IsRestricted)

/-- A written value is quiet whatever text it holds. -/
theorem quiet_written (typed : TypedValue) : Quiet typed.written.pieces := by
  cases typed with
  | boolean value => cases value <;> exact .words rfl .nil
  | null => exact .words rfl .nil
  | dateTime text =>
      exact .words rfl (.param _ (.words rfl (.identifier _
        (.words rfl .nil))))
  | id text => exact .param _ .nil
  | string text => exact .param _ .nil
  | enumeration text => exact .param _ .nil
  | integer value => exact .param _ .nil
  | double value => exact .param _ .nil
  | json value => exact .param _ .nil

/-- The written values of a payload are quiet. -/
theorem quiet_writtenValues {table : TypeInfo} {values : List (String × Json)}
    {written : List (String × Sql.Expression)} (typed : writtenValues table values = .ok written) :
    ∀ entry ∈ written, Quiet entry.2.pieces := by
  induction values generalizing written with
  | nil =>
      cases typed
      exact List.forall_mem_nil _
  | cons entry rest ih =>
      obtain ⟨field, value⟩ := entry
      obtain ⟨_, following, isWritten, restWritten, rfl⟩ := writtenValues_cons_eq_ok_iff.mp typed
      obtain ⟨type, typedValue, -, -, rfl⟩ := writtenValue_eq_ok_iff.mp isWritten
      exact List.forall_mem_cons.mpr ⟨quiet_written typedValue, ih restWritten⟩

/-- A plan of a read, an update or a removal of the rows that satisfy a condition. -/
inductive PlansFiltered (scope : Scope) (tableName : String) (condition : Condition) :
    Sql.Plan → Prop where
  | read {selection : Selection} {limit : Option UInt32} {plan : Sql.Plan}
      (planned : scope.planSelect tableName condition selection limit = .ok plan) :
      PlansFiltered scope tableName condition plan
  | update {payload : Payload} {plan : Sql.Plan}
      (planned : scope.planUpdate tableName condition payload = .ok plan) :
      PlansFiltered scope tableName condition plan
  | removal {plan : Sql.Plan} (planned : scope.planDelete tableName condition = .ok plan) :
      PlansFiltered scope tableName condition plan

/-- The condition of a filtered plan is the conjunction of the predicates that its request asks
for, on the columns of the table under the name the statement gives it. -/
theorem PlansFiltered.conjoins {scope : Scope} {tableName : String} {condition : Condition}
    {plan : Sql.Plan} (planned : PlansFiltered scope tableName condition plan) :
    ∃ table predicates expression, scope.lookupTable tableName = .ok table ∧
      condition.predicates table plan.statement.rootName? = .ok predicates ∧
      plan.statement.condition? = some expression ∧ expression.IsConjunctionOf predicates := by
  have conjoined {table : TypeInfo} {name : Option String} {expression : Sql.Expression}
      (built : condition.expression table name = .ok expression) :
      ∃ predicates, condition.predicates table name = .ok predicates ∧
        expression.IsConjunctionOf predicates := by
    obtain ⟨predicates, areBuilt, rfl⟩ := map_eq_ok_iff.mp built
    exact ⟨predicates, areBuilt, Sql.Expression.isConjunctionOf_conjoin predicates⟩
  cases planned with
  | read planned =>
      obtain ⟨table, expression, found, built, rfl⟩ := planSelect_eq_ok_iff.mp planned
      obtain ⟨predicates, areBuilt, isConjunction⟩ := conjoined built
      exact ⟨table, predicates, expression, found, areBuilt, rfl, isConjunction⟩
  | update planned =>
      obtain ⟨table, _, _, expression, found, -, -, -, built, rfl⟩ :=
        planUpdate_eq_ok_iff.mp planned
      obtain ⟨predicates, areBuilt, isConjunction⟩ := conjoined built
      exact ⟨table, predicates, expression, found, areBuilt, rfl, isConjunction⟩
  | removal planned =>
      obtain ⟨table, expression, found, built, rfl⟩ := planDelete_eq_ok_iff.mp planned
      obtain ⟨predicates, areBuilt, isConjunction⟩ := conjoined built
      exact ⟨table, predicates, expression, found, areBuilt, rfl, isConjunction⟩

/-- A filtered plan writes the expression of its condition between parts without another
condition clause. -/
theorem PlansFiltered.isFramed {scope : Scope} {tableName : String} {condition : Condition}
    {plan : Sql.Plan} (planned : PlansFiltered scope tableName condition plan) :
    ∃ table name expression, condition.expression table name = .ok expression ∧
      Sql.IsFramed plan.statement expression := by
  cases planned with
  | @read selection limit _ planned =>
      obtain ⟨table, expression, -, built, rfl⟩ := planSelect_eq_ok_iff.mp planned
      have columns := Quiet.columnPieces
        (Projection.quiet_ofSelection table selection (some table.name))
      have source : Quiet (Sql.sourcePieces (some (.table (scope.reference table) table.name))) :=
        .words rfl (.words rfl ((Quiet.tableReference _).append
          (.words rfl (.identifier _ .nil))))
      refine ⟨table, some table.name, expression, built, .parts
        (.words "SELECT " :: (Sql.commaSeparated (Sql.columnPieces
          (Projection.ofSelection table selection (some table.name))) ++
            Sql.sourcePieces (some (.table (scope.reference table) table.name))))
        (Sql.countPieces " LIMIT " limit) ?_ (.words rfl (columns.append source))
        (.countPieces rfl limit)⟩
      rw [Sql.Statement.pieces, Sql.Select.pieces_eq]
      simp [readOf, Sql.withPieces, Sql.joinPieces, Sql.orderByPieces, Sql.countPieces]
  | @update payload _ planned =>
      obtain ⟨table, prepared, written, expression, -, -, typed, -, built, rfl⟩ :=
        planUpdate_eq_ok_iff.mp planned
      have assignments := Quiet.assignmentPieces (quiet_writtenValues typed)
      refine ⟨table, none, expression, built, .parts
        (.words "UPDATE " :: .identifier scope.schema :: .words "." :: .identifier table.name ::
          .words " SET " :: Sql.commaSeparated (Sql.assignmentPieces written))
        (Sql.returningPieces (Projection.returning table)) ?_
        (.words rfl (.identifier _ (.words rfl (.identifier _
          (.words rfl assignments)))))
        (Projection.quiet_returning table)⟩
      rw [Sql.Statement.pieces, Sql.Update.pieces_eq]
      simp
  | removal planned =>
      obtain ⟨table, expression, -, built, rfl⟩ := planDelete_eq_ok_iff.mp planned
      refine ⟨table, none, expression, built, .parts
        [.words "DELETE FROM ", .identifier scope.schema, .words ".", .identifier table.name] [] ?_
        (.words rfl (.identifier _ (.words rfl (.identifier _ .nil)))) .nil⟩
      rw [Sql.Statement.pieces, Sql.Deletion.pieces]
      simp

/-- The text of a filtered plan, by itself and as it is sent, has a condition clause unless
no key of the condition is set. -/
theorem PlansFiltered.isRestricted_iff {scope : Scope} {tableName : String}
    {condition : Condition} {plan : Sql.Plan}
    (planned : PlansFiltered scope tableName condition plan) :
    (IsRestricted plan.raw.text ↔ Predicate.setEntries condition.entries.entries ≠ []) ∧
      (IsRestricted plan.query.text ↔ Predicate.setEntries condition.entries.entries ≠ []) := by
  obtain ⟨table, name, expression, built, framed⟩ := planned.isFramed
  have kept := not_congr (Predicate.expression_eq_always_iff built)
  exact ⟨framed.isRestricted_iff.trans kept, framed.isRestricted_wrapped_iff.trans kept⟩

end Scope

namespace Condition

/-- The condition whose keys were given one after another. -/
def inserted (given : List (String × Input)) : Condition :=
  given.foldl (fun condition entry => condition.insert entry.1 entry.2) .empty

theorem entries_inserted (given : List (String × Input)) :
    (inserted given).entries = .ofList given := by
  have fold : ∀ (given : List (String × Input)) (condition : Condition),
      (given.foldl (fun condition entry => condition.insert entry.1 entry.2) condition).entries =
        given.foldl (fun map entry => map.insert entry.1 entry.2) condition.entries := by
    intro given
    induction given with
    | nil => exact fun _ => rfl
    | cons entry rest ih => exact fun condition => ih (condition.insert entry.1 entry.2)
  exact fold given .empty

/-- No key is set exactly if none was given a value last. -/
theorem setEntries_inserted_eq_nil_iff (given : List (String × Input)) :
    Predicate.setEntries (inserted given).entries.entries = [] ↔
      ∀ key value, Keyed.lastGiven given key ≠ some (.value value) := by
  rw [entries_inserted, Predicate.setEntries, List.filterMap_eq_nil_iff]
  constructor
  · intro unset key value given
    have noValue := unset _ ((Keyed.mem_entries_ofList_iff _ _ _).mpr given)
    cases noValue
  · rintro none ⟨key, input⟩ mem
    have last := (Keyed.mem_entries_ofList_iff _ _ _).mp mem
    cases input with
    | unset => rfl
    | value value => exact absurd last (none key value)

/-- No filter is dropped. A condition holds its keys in ascending order of their bytes, each
with the input given last for it. Its predicates can be had exactly when every entry is
accepted; then there is one for each set key, in that order, on the column its key reads as.
Otherwise the error is an offence of the first entry that is not accepted. A planned read,
update or removal asks for the conjunction of these predicates, and has no condition clause
exactly when no key is set. -/
theorem filters_kept (given : List (String × Input)) :
    let condition := inserted given
    let entries := condition.entries.entries
    (condition.entries.keys.map Keyed.bytes).Pairwise (· < ·) ∧
      (∀ key input, (key, input) ∈ entries ↔ Keyed.lastGiven given key = some input) ∧
      (∀ (table : TypeInfo) (name : Option String),
        ((∃ predicates, condition.predicates table name = .ok predicates) ↔
          ∀ entry ∈ entries, IsAccepted table entry) ∧
        (∀ predicates, condition.predicates table name = .ok predicates →
          List.Forall₂ (fun entry => Predicate.IsFor table name entry.1)
            (Predicate.setEntries entries) predicates) ∧
        ∀ error, condition.predicates table name = .error error →
          ∃ before entry after, entries = before ++ entry :: after ∧
            (∀ earlier ∈ before, IsAccepted table earlier) ∧ Offence table entry error) ∧
      ∀ (scope : Scope) (tableName : String) (plan : Sql.Plan),
        scope.PlansFiltered tableName condition plan →
          (∃ table predicates expression, scope.lookupTable tableName = .ok table ∧
            condition.predicates table plan.statement.rootName? = .ok predicates ∧
            plan.statement.condition? = some expression ∧
            expression.IsConjunctionOf predicates) ∧
          (¬ Sql.IsRestricted plan.raw.text ↔
            ∀ key value, Keyed.lastGiven given key ≠ some (.value value)) ∧
          (¬ Sql.IsRestricted plan.query.text ↔
            ∀ key value, Keyed.lastGiven given key ≠ some (.value value)) := by
  intro condition entries
  refine ⟨Keyed.ascending_bytes _, ?_, ?_, ?_⟩
  · intro key input
    rw [← Keyed.mem_entries_ofList_iff, ← entries_inserted]
  · intro table name
    rcases Predicate.ofEntries_cases table name entries with
      ⟨accepted, predicates, built, areFor⟩ |
        ⟨before, entry, after, error, split, earlier, offence, failed⟩
    · have succeeds : condition.predicates table name = .ok predicates := built
      rw [succeeds]
      refine ⟨⟨fun _ => accepted, fun _ => ⟨predicates, rfl⟩⟩, ?_, ?_⟩
      · rintro _ ⟨⟩
        exact areFor
      · rintro _ ⟨⟩
    · have fails : condition.predicates table name = .error error := failed
      rw [fails]
      refine ⟨⟨?_, ?_⟩, ?_, ?_⟩
      · rintro ⟨_, ⟨⟩⟩
      · intro accepted
        exact absurd (accepted entry (by simp [split])) offence.not_isAccepted
      · rintro _ ⟨⟩
      · rintro _ ⟨⟩
        exact ⟨before, entry, after, split, earlier, offence⟩
  · intro scope tableName plan planned
    rw [← setEntries_inserted_eq_nil_iff]
    exact ⟨planned.conjoins, (not_congr planned.isRestricted_iff.1).trans not_not,
      (not_congr planned.isRestricted_iff.2).trans not_not⟩

/-- A removal whose condition gives two keys and leaves another unset keeps both filters, in the
order of the keys and not in that in which they were given. -/
theorem filters_kept_removal :
    let table : TypeInfo := .table "users" [("id", .id), ("name", .string), ("age", .number)]
    let scope : Scope := ⟨.ofTypes [table], "public"⟩
    let given : List (String × Input) :=
      [("name", .value (.string "ada")), ("id", .unset), ("age_lt", .value (.integer 30))]
    let young : Sql.Expression :=
      .comparison (.column (.plain "age")) .lessThan (.constant (.integer 30))
    let named : Sql.Expression :=
      .comparison (.column (.plain "name")) .equals (.constant (.string "ada"))
    let removal : Sql.Plan :=
      ⟨"users", .deletion ⟨"public", "users", .conjunction young named⟩⟩
    scope.planDelete "users" (inserted given) = .ok removal ∧
      (∀ entry ∈ (inserted given).entries.entries, IsAccepted table entry) ∧
      (inserted given).predicates table none = .ok [young, named] ∧
      (Sql.Expression.conjunction young named).IsConjunctionOf [young, named] ∧
      Sql.IsRestricted removal.raw.text ∧ Sql.IsRestricted removal.query.text := by
  intro table scope given young named removal
  have planned : scope.planDelete "users" (inserted given) = .ok removal := rfl
  have built : (inserted given).predicates table none = .ok [young, named] := rfl
  obtain ⟨-, -, translated, plans⟩ := filters_kept given
  obtain ⟨⟨_, predicates, _, found, areBuilt, ⟨⟩, isConjunction⟩, unrestricted⟩ :=
    plans scope "users" removal (.removal planned)
  cases found
  cases built.symm.trans areBuilt
  have isGiven : Keyed.lastGiven given "name" = some (.value (.string "ada")) := rfl
  refine ⟨planned, (translated table none).1.mp ⟨_, built⟩, built, isConjunction, ?_, ?_⟩
  · by_contra without
    exact unrestricted.1.mp without "name" (.string "ada") isGiven
  · by_contra without
    exact unrestricted.2.mp without "name" (.string "ada") isGiven

end Condition

end CatalogSql
