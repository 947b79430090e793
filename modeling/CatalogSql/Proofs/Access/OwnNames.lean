import CatalogSql.Catalog.Coding
import CatalogSql.Proofs.Access.Runs
import CatalogSql.Proofs.Access.Scoping
import CatalogSql.Proofs.Planning.Filtering

/-!
# Tables looked up by their own names

An accessor is found by the name a table is stored under, and looks the table up again by the
name it carries. So it works on whatever is stored under that name, and on nothing when it is
not the name of a table. The same holds for the tables that a query joins. Where types are
stored under their own names, the two are one.
-/

namespace CatalogSql

/-! ## Errors about tables -/

/-- A step that does not fail for a table that is missing. -/
def FindsTables {α : Type} (step : Except RequestError α) : Prop :=
  ∀ name, step ≠ .error (.lookup (.unknownTable name))

namespace FindsTables

variable {α β : Type}

/-- A success misses no table. -/
theorem ok (value : α) : FindsTables (.ok value : Except RequestError α) := by
  rintro name ⟨⟩

/-- A sequence of steps finds its tables if each step does. -/
theorem bind {step : Except RequestError α} {next : α → Except RequestError β}
    (first : FindsTables step) (second : ∀ value, FindsTables (next value)) :
    FindsTables (step >>= next) := by
  intro name failed
  rcases bind_eq_error_iff.mp failed with here | ⟨value, -, later⟩
  · exact first name here
  · exact second value name later

/-- Changing the result misses no table. -/
theorem map {step : Except RequestError α} (finds : FindsTables step) (change : α → β) :
    FindsTables (step.map change) := by
  cases step with
  | ok value => exact .ok _
  | error error =>
      rintro name ⟨⟩
      exact finds name rfl

end FindsTables

/-- Typing a value looks up no table. -/
theorem findsTables_ofJson (table field : String) (type : SemanticType) (value : Json) :
    FindsTables (TypedValue.ofJson table field type value) := by
  intro name failed
  cases type <;> cases value <;> cases failed

/-- No offence of a condition is an unknown table. -/
theorem Condition.Offence.ne_unknownTable {table : TypeInfo} {entry : String × Input}
    {error : RequestError} (offence : Offence table entry error) (name : String) :
    error ≠ .lookup (.unknownTable name) := by
  rintro rfl
  cases offence with
  | untyped only refused => exact findsTables_ofJson _ _ _ _ name refused

/-- The predicates of a condition look up no table. -/
theorem Condition.findsTables_predicates (condition : Condition) (table : TypeInfo)
    (name : Option String) : FindsTables (condition.predicates table name) := by
  intro missing failed
  rcases Predicate.ofEntries_cases table name condition.entries.entries with
    ⟨-, predicates, built, -⟩ | ⟨-, entry, -, error, -, -, offence, refused⟩
  · cases built.symm.trans failed
  · cases refused.symm.trans failed
    exact offence.ne_unknownTable missing rfl

/-- The expression of a condition looks up no table. -/
theorem Condition.findsTables_expression (condition : Condition) (table : TypeInfo)
    (name : Option String) : FindsTables (condition.expression table name) :=
  (condition.findsTables_predicates table name).map _

/-- Truncating the dates of a payload looks up no table. -/
theorem Payload.findsTables_truncateEntries (table : TypeInfo) (entries : List (String × Input)) :
    FindsTables (truncateEntries table entries) := by
  induction entries with
  | nil => exact .ok _
  | cons entry rest ih =>
      refine .bind ?_ fun truncated => ih.bind fun following => .ok _
      intro name failed
      unfold truncateInput at failed
      split at failed
      · split at failed <;> cases failed
      · cases failed

/-- Preparing an update looks up no table. -/
theorem Payload.findsTables_prepareUpdate (payload : Payload) (table : TypeInfo) :
    FindsTables (payload.prepareUpdate table) :=
  (findsTables_truncateEntries table _).map _

/-- Preparing an insertion looks up no table. -/
theorem Payload.findsTables_prepareInsert (payload : Payload) (table : TypeInfo)
    (explicitId : Option String) (freshId now : String) :
    FindsTables (payload.prepareInsert table explicitId freshId now) :=
  (payload.findsTables_prepareUpdate table).bind fun _ => .ok _

namespace Scope

/-- Typing the entries of a payload looks up no table. -/
theorem findsTables_writtenValues (table : TypeInfo) (entries : List (String × Json)) :
    FindsTables (writtenValues table entries) := by
  induction entries with
  | nil => exact .ok _
  | cons entry rest ih =>
      refine .bind (.bind ?_ fun type => (findsTables_ofJson _ _ type _).bind fun _ => .ok _)
        fun written => ih.bind fun following => .ok _
      intro name failed
      unfold TypeInfo.requireField TypeInfo.lookupField at failed
      split at failed <;> cases failed

variable {scope : Scope} {tableName : String} {table : TypeInfo}

/-- A table is found under a name or unknown by that name. -/
theorem lookupTable_cases (scope : Scope) (name : String) :
    (∃ table, scope.lookupTable name = .ok table) ∨
      scope.lookupTable name = .error (.lookup (.unknownTable name)) := by
  unfold lookupTable Catalog.lookupTable
  split
  · split
    · exact .inl ⟨_, rfl⟩
    · exact .inr rfl
  · exact .inr rfl

/-- A table that is there is found. -/
theorem findsTables_lookupTable (found : scope.lookupTable tableName = .ok table) :
    FindsTables (scope.lookupTable tableName) := by
  rw [found]
  exact .ok _

/-- Planning a read of a table that is there finds its tables. -/
theorem findsTables_select (found : scope.lookupTable tableName = .ok table)
    (condition : Condition) (selection : Selection) (limit : Option UInt32) :
    FindsTables (scope.select tableName condition selection limit) :=
  (findsTables_lookupTable found).bind fun table =>
    (condition.findsTables_expression table _).bind fun _ => .ok _

/-- Planning an insertion into a table that is there finds its tables. -/
theorem findsTables_planInsert (found : scope.lookupTable tableName = .ok table)
    (payload : Payload) (explicitId : Option String) (freshId now : String) :
    FindsTables (scope.planInsert tableName payload explicitId freshId now) :=
  (findsTables_lookupTable found).bind fun table =>
    (payload.findsTables_prepareInsert table explicitId freshId now).bind fun row =>
      (findsTables_writtenValues table row.values).bind fun _ => .ok _

/-- Planning an update of a table that is there finds its tables. -/
theorem findsTables_planUpdate (found : scope.lookupTable tableName = .ok table)
    (condition : Condition) (payload : Payload) :
    FindsTables (scope.planUpdate tableName condition payload) := by
  refine (findsTables_lookupTable found).bind fun table =>
    (payload.findsTables_prepareUpdate table).bind fun prepared =>
      (findsTables_writtenValues table prepared.values).bind fun written => ?_
  split
  · rintro name ⟨⟩
  · exact (condition.findsTables_expression table none).bind fun _ => .ok _

/-- Planning a removal from a table that is there finds its tables. -/
theorem findsTables_planDelete (found : scope.lookupTable tableName = .ok table)
    (condition : Condition) : FindsTables (scope.planDelete tableName condition) :=
  (findsTables_lookupTable found).bind fun table =>
    (condition.findsTables_expression table none).bind fun _ => .ok _

end Scope

/-! ## Operations on one table -/

namespace Accessor

/-- What an accessor can be asked for. -/
inductive Operation where
  | queryOne (condition : Condition) (selection : Selection)
  | insert (payload : Payload) (explicitId : Option String) (freshId now : String)
  | update (condition : Condition) (payload : Payload)
  | delete (condition : Condition)
  | queryMany (condition : Condition) (selection : Selection)

/-- The plan of an operation. A query is planned as it is started. -/
def plan (accessor : Accessor) : Operation → Except AccessError Sql.Plan
  | .queryOne condition selection => accessor.planQueryOne condition selection
  | .insert payload explicitId freshId now => accessor.planInsert payload explicitId freshId now
  | .update condition payload => accessor.planUpdate condition payload
  | .delete condition => accessor.planDelete condition
  | .queryMany condition selection => (accessor.queryMany condition selection).map (·.plan)

/-- The statements of operations on a table. -/
inductive Operation.StatesOn (scope : Scope) (table : TypeInfo) : Operation → Sql.Statement → Prop
    where
  | queryOne {condition : Condition} {selection : Selection} {expression : Sql.Expression}
      (built : condition.expression table (some table.name) = .ok expression) :
      StatesOn scope table (.queryOne condition selection)
        (.select (scope.readOf table selection expression (some 1)))
  | insert {payload row : Payload} {explicitId : Option String} {freshId now : String}
      {written : List (String × Sql.Expression)}
      (prepared : payload.prepareInsert table explicitId freshId now = .ok row)
      (typed : Scope.writtenValues table row.values = .ok written) :
      StatesOn scope table (.insert payload explicitId freshId now)
        (.insertion ⟨scope.schema, table.name, written.map (·.1), written.map (·.2),
          Projection.returning table⟩)
  | update {condition : Condition} {payload prepared : Payload}
      {written : List (String × Sql.Expression)} {expression : Sql.Expression}
      (truncated : payload.prepareUpdate table = .ok prepared)
      (typed : Scope.writtenValues table prepared.values = .ok written) (nonempty : written ≠ [])
      (built : condition.expression table none = .ok expression) :
      StatesOn scope table (.update condition payload)
        (.update ⟨scope.schema, table.name, written, expression, Projection.returning table⟩)
  | delete {condition : Condition} {expression : Sql.Expression}
      (built : condition.expression table none = .ok expression) :
      StatesOn scope table (.delete condition)
        (.deletion ⟨scope.schema, table.name, expression⟩)
  | queryMany {condition : Condition} {selection : Selection} {expression : Sql.Expression}
      (built : condition.expression table (some table.name) = .ok expression) :
      StatesOn scope table (.queryMany condition selection)
        (.select (scope.readOf table selection expression none))

variable {accessor : Accessor} {table : TypeInfo}

/-- The operations of an accessor are on the table stored under the name its own table carries. -/
theorem plan_eq_ok_iff (found : accessor.scope.lookupTable accessor.name = .ok table)
    (operation : Operation) (statement : Sql.Statement) :
    (∃ root, accessor.plan operation = .ok ⟨root, statement⟩) ↔
      operation.StatesOn accessor.scope table statement := by
  constructor
  · rintro ⟨root, planned⟩
    cases operation with
    | queryOne condition selection =>
        obtain ⟨_, expression, isTable, built, same⟩ :=
          Scope.planSelect_eq_ok_iff.mp (mapError_eq_ok_iff.mp planned)
        cases found.symm.trans isTable
        cases same
        exact .queryOne built
    | insert payload explicitId freshId now =>
        obtain ⟨_, row, written, isTable, prepared, typed, same⟩ :=
          Scope.planInsert_eq_ok_iff.mp (mapError_eq_ok_iff.mp planned)
        cases found.symm.trans isTable
        cases same
        exact .insert prepared typed
    | update condition payload =>
        obtain ⟨_, prepared, written, expression, isTable, truncated, typed, nonempty, built,
          same⟩ := Scope.planUpdate_eq_ok_iff.mp (mapError_eq_ok_iff.mp planned)
        cases found.symm.trans isTable
        cases same
        exact .update truncated typed nonempty built
    | delete condition =>
        obtain ⟨_, expression, isTable, built, same⟩ :=
          Scope.planDelete_eq_ok_iff.mp (mapError_eq_ok_iff.mp planned)
        cases found.symm.trans isTable
        cases same
        exact .delete built
    | queryMany condition selection =>
        obtain ⟨query, started, same⟩ := map_eq_ok_iff.mp planned
        obtain ⟨_, expression, isTable, built, rfl⟩ := queryMany_eq_ok_iff.mp started
        cases found.symm.trans isTable
        cases same
        exact .queryMany built
  · intro states
    cases states with
    | queryOne built =>
        exact ⟨_, mapError_eq_ok_iff.mpr
          (Scope.planSelect_eq_ok_iff.mpr ⟨table, _, found, built, rfl⟩)⟩
    | insert prepared typed =>
        exact ⟨_, mapError_eq_ok_iff.mpr
          (Scope.planInsert_eq_ok_iff.mpr ⟨table, _, _, found, prepared, typed, rfl⟩)⟩
    | update truncated typed nonempty built =>
        exact ⟨_, mapError_eq_ok_iff.mpr (Scope.planUpdate_eq_ok_iff.mpr
          ⟨table, _, _, _, found, truncated, typed, nonempty, built, rfl⟩)⟩
    | delete built =>
        exact ⟨_, mapError_eq_ok_iff.mpr
          (Scope.planDelete_eq_ok_iff.mpr ⟨table, _, found, built, rfl⟩)⟩
    | queryMany built =>
        exact ⟨_, map_eq_ok_iff.mpr
          ⟨_, queryMany_eq_ok_iff.mpr ⟨table, _, found, built, rfl⟩, rfl⟩⟩

/-- No operation misses a table when there is one under the name that the accessor's carries. -/
theorem plan_ne_unknownTable (found : accessor.scope.lookupTable accessor.name = .ok table)
    (operation : Operation) (name : String) :
    accessor.plan operation ≠ .error (.request (.lookup (.unknownTable name))) := by
  have ofStep : ∀ {step : Except RequestError Sql.Plan}, FindsTables step →
      step.mapError AccessError.request ≠ .error (.request (.lookup (.unknownTable name))) := by
    intro step finds failed
    obtain ⟨error, isError, same⟩ := mapError_eq_error_iff.mp failed
    cases same
    exact finds name isError
  cases operation with
  | queryOne condition selection =>
      exact ofStep ((Scope.findsTables_select found condition selection (some 1)).map _)
  | insert payload explicitId freshId now =>
      exact ofStep (Scope.findsTables_planInsert found payload explicitId freshId now)
  | update condition payload => exact ofStep (Scope.findsTables_planUpdate found condition payload)
  | delete condition => exact ofStep (Scope.findsTables_planDelete found condition)
  | queryMany condition selection =>
      have finds := Scope.findsTables_select found condition selection none
      rw [plan, queryMany]
      cases selected : accessor.scope.select accessor.name condition selection none with
      | ok read => rintro ⟨⟩
      | error error =>
          rintro ⟨⟩
          exact finds name selected

/-- Every operation fails when there is no table under the name that the accessor's carries. -/
theorem plan_of_missing {error : RequestError}
    (missing : accessor.scope.lookupTable accessor.name = .error error) (operation : Operation) :
    accessor.plan operation = .error (.request error) := by
  cases operation <;>
    simp only [plan, planQueryOne, planInsert, planUpdate, planDelete, queryMany, Scope.planSelect,
      Scope.planInsert, Scope.planUpdate, Scope.planDelete, Scope.select, missing] <;>
    rfl

/-- An accessor is found for a key exactly if a table is stored under it. -/
theorem find_eq_ok_iff {scope : Scope} {key : String} :
    find scope key = .ok accessor ↔
      scope.lookupTable key = .ok accessor.table ∧ accessor.scope = scope := by
  obtain ⟨held, table⟩ := accessor
  unfold find
  cases scope.lookupTable key with
  | error error => simp
  | ok found => simp [and_comm, eq_comm]

end Accessor

/-! ## Joined tables -/

namespace Query

/-- The name that a join gives to a table leads to the name the table carries, whatever steps
follow. -/
theorem tableOf?_of_join {query joined result : Query} {kind : Sql.JoinKind}
    {tableName name field joinedField : String} {steps : List Step}
    (isJoined : query.join kind tableName name field joinedField = .ok joined)
    (ran : joined.run steps = .ok result) :
    ∃ table, query.scope.lookupTable tableName = .ok table ∧ result.scope = query.scope ∧
      result.tableOf? name = some table.name := by
  obtain ⟨root, table, isFree, -, found, -, -, rfl⟩ := join_eq_ok_iff.mp isJoined
  obtain ⟨added, grown⟩ := ran_of_run ran
  refine ⟨table, found, grown.scope, tableOf?_of_append grown.table grown.joined ?_⟩
  unfold tableOf? at isFree ⊢
  split at isFree
  · cases isFree
  · rename_i notRoot
    rw [if_neg notRoot, Keyed.lookup?_append, isFree, Option.none_or, Keyed.lookup?, if_pos rfl]

end Query

/-- Types stored under their own names are found there. -/
theorem Scope.lookupTable_of_keyedByName {scope : Scope} {key : String} {table : TypeInfo}
    (keyed : scope.catalog.KeyedByName) (found : scope.lookupTable key = .ok table) :
    scope.lookupTable table.name = .ok table := by
  rwa [keyed.name_eq (mapError_eq_ok_iff.mp found)]

/-- An accessor reports the table that its name is stored under, and works on the one stored under
the name which that table carries: on no other, and on nothing when there is none. Likewise a
condition on a joined table is checked against the table stored under the name that the joined
one carries. When types are stored under their own names, these are the tables asked for. -/
theorem works_on_own_name (scope : Scope) :
    (∀ key accessor, Accessor.find scope key = .ok accessor →
      scope.lookupTable key = .ok accessor.table ∧
      ((scope.lookupTable accessor.name = .error (.lookup (.unknownTable accessor.name)) ∧
          ∀ operation, accessor.plan operation =
            .error (.request (.lookup (.unknownTable accessor.name)))) ∨
        ∃ table, scope.lookupTable accessor.name = .ok table ∧
          ∀ operation : Accessor.Operation,
            (∀ name, accessor.plan operation ≠ .error (.request (.lookup (.unknownTable name)))) ∧
            ∀ statement, (∃ root, accessor.plan operation = .ok ⟨root, statement⟩) ↔
              operation.StatesOn scope table statement)) ∧
    (∀ (query joined : Query) (kind : Sql.JoinKind) (tableName name field joinedField : String),
      query.scope = scope → query.join kind tableName name field joinedField = .ok joined →
      ∀ (steps : List Query.Step) (result : Query), joined.run steps = .ok result →
        ∃ table, scope.lookupTable tableName = .ok table ∧
          ((scope.lookupTable table.name = .error (.lookup (.unknownTable table.name)) ∧
              ∀ condition, result.filter name condition =
                .error (.request (.lookup (.unknownTable table.name)))) ∨
            ∃ stored, scope.lookupTable table.name = .ok stored ∧
              ∀ condition filtered, result.filter name condition = .ok filtered ↔
                ∃ predicates, condition.predicates stored (some name) = .ok predicates ∧
                  filtered = result.addPredicates predicates)) ∧
    (scope.catalog.KeyedByName → ∀ key table, scope.lookupTable key = .ok table →
      scope.lookupTable table.name = .ok table) := by
  refine ⟨?_, ?_, fun keyed key table found => Scope.lookupTable_of_keyedByName keyed found⟩
  · intro key accessor isFound
    obtain ⟨isTable, rfl⟩ := Accessor.find_eq_ok_iff.mp isFound
    refine ⟨isTable, ?_⟩
    rcases accessor.scope.lookupTable_cases accessor.name with ⟨table, found⟩ | missing
    · exact .inr ⟨table, found, fun operation => ⟨Accessor.plan_ne_unknownTable found operation,
        Accessor.plan_eq_ok_iff found operation⟩⟩
    · exact .inl ⟨missing, Accessor.plan_of_missing missing⟩
  · rintro query joined kind tableName name field joinedField rfl isJoined steps result ran
    obtain ⟨table, found, sameScope, isNamed⟩ := Query.tableOf?_of_join isJoined ran
    refine ⟨table, found, ?_⟩
    rcases query.scope.lookupTable_cases table.name with ⟨stored, isStored⟩ | missing
    · refine .inr ⟨stored, isStored, fun condition filtered => ?_⟩
      rw [Query.filter_eq_ok_iff, isNamed, sameScope]
      constructor
      · rintro ⟨_, _, predicates, ⟨⟩, isUsed, built, same⟩
        cases isStored.symm.trans isUsed
        exact ⟨predicates, built, same⟩
      · rintro ⟨predicates, built, same⟩
        exact ⟨_, stored, predicates, rfl, isStored, built, same⟩
    · refine .inl ⟨missing, fun condition => ?_⟩
      simp only [Query.filter, isNamed, sameScope, missing]
      rfl

/-- Two tables that are stored under their own names: an accessor works on the one it was asked
for, and a condition on a joined one is checked against that one. -/
theorem works_on_own_name_accounts :
    let account : TypeInfo := .table "Account" [("id", .id), ("balance", .number)]
    let user : TypeInfo := .table "User" [("id", .id), ("email", .string)]
    let scope : Scope := ⟨⟨[("Account", account), ("User", user)], by decide +kernel⟩, "public"⟩
    let accessor : Accessor := ⟨scope, user⟩
    let query : Query := ⟨scope, "User", [], scope.readOf user .all .always none⟩
    scope.catalog.KeyedByName ∧ Accessor.find scope "User" = .ok accessor ∧
      (∃ root, accessor.plan (.delete .empty) = .ok ⟨root, .deletion ⟨"public", "User", .always⟩⟩) ∧
      accessor.queryMany .empty .all = .ok query ∧
      ∃ joined filtered, query.join .inner "Account" "joined" "id" "id" = .ok joined ∧
        joined.filter "joined" (Condition.empty.set "balance" .null) = .ok filtered := by
  intro account user scope accessor query
  have keyed : scope.catalog.KeyedByName :=
    List.forall_mem_cons.mpr ⟨rfl, List.forall_mem_singleton.mpr rfl⟩
  have isAccount : scope.lookupTable "Account" = .ok account := rfl
  have isUser : scope.lookupTable "User" = .ok user := rfl
  have isFound : Accessor.find scope "User" = .ok accessor :=
    Accessor.find_eq_ok_iff.mpr ⟨isUser, rfl⟩
  have isRoot : query.root = .ok user := Query.root_eq_ok_iff.mpr (mapError_eq_ok_iff.mp isUser)
  have isJoined : ∃ joined, query.join .inner "Account" "joined" "id" "id" = .ok joined :=
    ⟨_, Query.join_eq_ok_iff.mpr
      ⟨user, account, rfl, isRoot, isAccount, ⟨.id, rfl⟩, ⟨.id, rfl⟩, rfl⟩⟩
  obtain ⟨joined, isJoined⟩ := isJoined
  obtain ⟨accessors, joins, own⟩ := works_on_own_name scope
  obtain ⟨-, ⟨missing, -⟩ | ⟨table, found, operations⟩⟩ := accessors "User" accessor isFound
  · cases isUser.symm.trans missing
  cases isUser.symm.trans found
  obtain ⟨other, isOther, filters⟩ :=
    joins query joined .inner "Account" "joined" "id" "id" rfl isJoined [] joined rfl
  cases isAccount.symm.trans isOther
  rcases filters with ⟨missing, -⟩ | ⟨stored, isStored, filters⟩
  · cases (own keyed "Account" account isAccount).symm.trans missing
  cases (own keyed "Account" account isAccount).symm.trans isStored
  exact ⟨keyed, isFound, ((operations (.delete .empty)).2 _).mpr (.delete rfl),
    Accessor.queryMany_eq_ok_iff.mpr ⟨user, .always, isUser, rfl, rfl⟩, joined, _, isJoined,
    (filters _ _).mpr ⟨[.isNull (.columnOf (some "joined") "balance")], rfl, rfl⟩⟩

/-- An accessor that is found for one table and removes the rows of another, an accessor that
finds no table to work on, and a joined table whose fields a condition may not name. -/
theorem works_elsewhere :
    let account : TypeInfo := .table "Account" [("id", .id), ("balance", .number)]
    let user : TypeInfo := .table "User" [("id", .id), ("email", .string)]
    let scope : Scope := ⟨⟨[("Account", user), ("User", account)], by decide +kernel⟩, "public"⟩
    let alone : Scope := ⟨⟨[("User", account)], by decide +kernel⟩, "public"⟩
    (Json.decodeValue Catalog.decoder scope.catalog.toJson).toOption = some scope.catalog ∧
    (∃ accessor, Accessor.find scope "User" = .ok accessor ∧ accessor.table = account ∧
      accessor.planDelete .empty = .ok ⟨"User", .deletion ⟨"public", "User", .always⟩⟩ ∧
      ¬ (Accessor.Operation.delete .empty).StatesOn scope accessor.table
        (.deletion ⟨"public", "User", .always⟩)) ∧
    (∃ accessor, Accessor.find alone "User" = .ok accessor ∧
      accessor.planDelete .empty = .error (.request (.lookup (.unknownTable "Account")))) ∧
    ∃ query joined, Accessor.queryMany ⟨scope, account⟩ .empty .all = .ok query ∧
      query.join .inner "User" "joined" "id" "id" = .ok joined ∧
      scope.lookupTable "User" = .ok account ∧ account.fieldType? "balance" = some .number ∧
      joined.filter "joined" (Condition.empty.set "balance" .null) =
        .error (.request (.unsupportedOperator "balance" "User")) := by
  intro account user scope alone
  have stored : scope.lookupTable "User" = .ok account := rfl
  have elsewhere : scope.lookupTable "Account" = .ok user := rfl
  have onAccount : ∀ statement,
      (Accessor.Operation.delete .empty).StatesOn scope account statement →
        ∃ expression, statement = .deletion ⟨"public", "Account", expression⟩ := by
    rintro _ ⟨⟩
    exact ⟨_, rfl⟩
  refine ⟨by decide +kernel,
    ⟨⟨scope, account⟩, Accessor.find_eq_ok_iff.mpr ⟨stored, rfl⟩, rfl, ?_, ?_⟩,
    ⟨⟨alone, account⟩, Accessor.find_eq_ok_iff.mpr ⟨rfl, rfl⟩, rfl⟩, _, _,
    Accessor.queryMany_eq_ok_iff.mpr ⟨user, .always, elsewhere, rfl, rfl⟩,
    Query.join_eq_ok_iff.mpr ⟨user, account, rfl, ?_, stored, ⟨.id, rfl⟩, ⟨.id, rfl⟩, rfl⟩,
    stored, rfl, rfl⟩
  · exact mapError_eq_ok_iff.mpr
      (Scope.planDelete_eq_ok_iff.mpr ⟨user, .always, elsewhere, rfl, rfl⟩)
  · intro states
    obtain ⟨expression, same⟩ := onAccount _ states
    simp at same
  · exact Query.root_eq_ok_iff.mpr (mapError_eq_ok_iff.mp elsewhere)

end CatalogSql
