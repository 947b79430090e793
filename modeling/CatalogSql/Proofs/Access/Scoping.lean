import CatalogSql.Proofs.Access.Runs

/-!
# Names in scope

A composed query brings names into scope: that of its root table and those given to joined
tables. They are distinct, every column it names is a declared field of the table behind the
name it is qualified with, and a join names its own table and the root table only. Nested
reads have a scope of their own.
-/

namespace CatalogSql

namespace Sql

/-- A column of a table in scope: it is qualified by a name in scope, and it is a declared
field of the table behind that name. -/
def ColumnReference.ResolvesIn (catalog : Catalog) (names : List (String × String))
    (reference : ColumnReference) : Prop :=
  ∃ name tableName table field type, reference = .qualified (.aliased name) field ∧
    (name, tableName) ∈ names ∧ catalog.lookupTable tableName = .ok table ∧
    table.fieldType? field = some type

theorem ColumnReference.ResolvesIn.mono {catalog : Catalog} {names others : List (String × String)}
    {reference : ColumnReference} (resolves : reference.ResolvesIn catalog names)
    (included : names ⊆ others) : reference.ResolvesIn catalog others := by
  obtain ⟨name, tableName, table, field, type, isColumn, mem, found, declared⟩ := resolves
  exact ⟨name, tableName, table, field, type, isColumn, included mem, found, declared⟩

/-- An expression that names columns of the tables in scope, those of nested reads aside. -/
def Expression.IsWithin (catalog : Catalog) (names : List (String × String))
    (expression : Expression) : Prop :=
  ∀ reference ∈ expression.references, reference.ResolvesIn catalog names

theorem Expression.IsWithin.mono {catalog : Catalog} {names others : List (String × String)}
    {expression : Expression} (within : expression.IsWithin catalog names)
    (included : names ⊆ others) : expression.IsWithin catalog others :=
  fun reference mem => (within reference mem).mono included

/-- A conjunction is within a scope exactly if its predicates are. -/
theorem Expression.isWithin_conjoin_iff {catalog : Catalog} {names : List (String × String)}
    {predicates : List Expression} :
    (conjoin predicates).IsWithin catalog names ↔
      ∀ predicate ∈ predicates, predicate.IsWithin catalog names := by
  unfold IsWithin
  rw [references_conjoin]
  constructor
  · intro within predicate mem reference inPredicate
    exact within reference (List.mem_flatMap.mpr ⟨predicate, mem, inPredicate⟩)
  · intro each reference mem
    obtain ⟨predicate, inPredicates, inPredicate⟩ := List.mem_flatMap.mp mem
    exact each predicate inPredicates reference inPredicate

/-- A column of a declared field is within scope when its table is. -/
theorem Expression.isWithin_columnOf {catalog : Catalog} {names : List (String × String)}
    {name tableName field : String} {table : TypeInfo} (inScope : (name, tableName) ∈ names)
    (found : catalog.lookupTable tableName = .ok table)
    (declared : ∃ type, table.fieldType? field = some type) :
    (columnOf (some name) field).IsWithin catalog names := by
  obtain ⟨type, declared⟩ := declared
  intro reference mem
  obtain rfl := List.mem_singleton.mp mem
  exact ⟨name, tableName, table, field, type, rfl, inScope, found, declared⟩

/-- A join of the table behind a name, on a condition that names columns of the root table
and of that table only. -/
structure Join.IsScoped (catalog : Catalog) (schema root : String) (entry : String × String)
    (join : Join) : Prop where
  name : join.name = entry.1
  reference : join.reference = .stored schema entry.2
  within : join.condition.IsWithin catalog [(root, root), entry]
  noReads : join.condition.reads = []

/-- A read of a root table and of joined tables, given by their names in the read and the
names of the tables behind them. All its clauses keep to these names. -/
structure Select.IsScoped (catalog : Catalog) (schema root : String)
    (joined : List (String × String)) (select : Select) : Prop where
  shared : select.shared = []
  source : select.source = some (.table (.stored schema root) root)
  distinct : (root :: Keyed.keys joined).Nodup
  joins : List.Forall₂ (Join.IsScoped catalog schema root) joined select.joins
  columns : ∀ entry ∈ select.columns, entry.2.reads = [] ∧
    ∀ reference ∈ entry.2.references, ∃ field, reference = .qualified (.aliased root) field
  condition : select.condition.IsWithin catalog ((root, root) :: joined)
  ordering : ∀ entry ∈ select.ordering, entry.1.reads = [] ∧
    entry.1.IsWithin catalog ((root, root) :: joined)

/-- A read that keeps to names of its own, as do the reads nested in it. -/
inductive Select.WellScoped (catalog : Catalog) : Select → Prop where
  | nested {select : Select} (schema root : String) (joined : List (String × String))
      (isScoped : select.IsScoped catalog schema root joined)
      (reads : ∀ read ∈ select.condition.reads, WellScoped catalog read) :
      WellScoped catalog select

end Sql

namespace Query

/-- A query that keeps to the names it records, as do the reads nested in it. -/
structure IsScoped (query : Query) : Prop where
  select : query.select.IsScoped query.scope.catalog query.scope.schema query.table query.joined
  reads : ∀ read ∈ query.select.condition.reads, read.WellScoped query.scope.catalog

/-- The read of a scoped query is well-scoped. -/
theorem IsScoped.wellScoped {query : Query} (isScoped : query.IsScoped) :
    query.select.WellScoped query.scope.catalog :=
  .nested query.scope.schema query.table query.joined isScoped.select isScoped.reads

/-- The names of a query with the names of the tables behind them. -/
def names (query : Query) : List (String × String) := (query.table, query.table) :: query.joined

/-- The table of a name is the one it is recorded with. -/
theorem mem_names_of_tableOf? {query : Query} {name tableName : String}
    (distinct : (query.table :: Keyed.keys query.joined).Nodup)
    (isNamed : query.tableOf? name = some tableName) : (name, tableName) ∈ query.names := by
  unfold tableOf? at isNamed
  split at isNamed
  · rename_i isRoot
    cases isNamed
    rw [isRoot]
    exact List.mem_cons_self
  · exact List.mem_cons_of_mem _
      ((Keyed.lookup?_eq_some_iff (List.nodup_cons.mp distinct).2 name tableName).mp isNamed)

/-- A name that no table bears can be given to one more. -/
theorem nodup_keys_of_tableOf? {query : Query} {name tableName : String}
    (distinct : (query.table :: Keyed.keys query.joined).Nodup)
    (isFree : query.tableOf? name = none) :
    (query.table :: Keyed.keys (query.joined ++ [(name, tableName)])).Nodup := by
  unfold tableOf? at isFree
  split at isFree
  · cases isFree
  · rename_i notRoot
    have notJoined := (Keyed.lookup?_eq_none_iff name query.joined).mp isFree
    have keys : Keyed.keys (query.joined ++ [(name, tableName)]) =
        Keyed.keys query.joined ++ [name] := List.map_append
    rw [keys, ← List.cons_append, List.nodup_append_comm, List.singleton_append, List.nodup_cons,
      List.mem_cons, not_or]
    exact ⟨⟨notRoot, notJoined⟩, distinct⟩

/-- A query over a catalog, started by a read of a table and extended by steps that succeed.
A query nested by a step is such a query itself. -/
inductive Reachable (catalog : Catalog) : Query → Prop where
  | start {accessor : Accessor} {condition : Condition} {selection : Selection} {query : Query}
      (isOver : accessor.scope.catalog = catalog)
      (started : accessor.queryMany condition selection = .ok query) : Reachable catalog query
  | step {query result : Query} {step : Step} (before : Reachable catalog query)
      (nested : ∀ field inner, step = .whereIn field inner → Reachable catalog inner)
      (applied : query.apply step = .ok result) : Reachable catalog result

/-- A run of steps leads from a query over a catalog to another one. -/
theorem Reachable.run {catalog : Catalog} {start result : Query} {steps : List Step}
    (before : Reachable catalog start)
    (nested : ∀ field inner, .whereIn field inner ∈ steps → Reachable catalog inner)
    (ran : start.run steps = .ok result) : Reachable catalog result := by
  induction steps generalizing start with
  | nil =>
      cases ran
      exact before
  | cons step rest ih =>
      obtain ⟨next, applied, restRan⟩ := run_cons_eq_ok_iff.mp ran
      refine ih (before.step ?_ applied) ?_ restRan
      · rintro field inner rfl
        exact nested field inner List.mem_cons_self
      · intro field inner mem
        exact nested field inner (List.mem_cons_of_mem _ mem)

/-- The predicates of a condition name declared fields of their table, under its name. -/
theorem isWithin_predicates {catalog : Catalog} {names : List (String × String)}
    {name tableName : String} {table : TypeInfo} {condition : Condition}
    {predicates : List Sql.Expression} (inScope : (name, tableName) ∈ names)
    (found : catalog.lookupTable tableName = .ok table)
    (built : condition.predicates table (some name) = .ok predicates) :
    ∀ predicate ∈ predicates, predicate.IsWithin catalog names ∧ predicate.reads = [] := by
  refine forall_mem_of_forall₂ (Predicate.compares_of_ofEntries built) ?_
  intro entry predicate compares
  obtain ⟨⟨reading, only, references⟩, noReads⟩ := compares.columns
  refine ⟨?_, noReads⟩
  intro reference mem
  rw [references] at mem
  obtain rfl := List.mem_singleton.mp mem
  exact ⟨name, tableName, table, reading.field, reading.type, rfl, inScope, found,
    only.isReading.declared⟩

/-- A condition has no conjunct but itself. -/
theorem eq_of_mem_conjuncts {condition predicate : Sql.Expression}
    (mem : predicate ∈ conjuncts condition) : predicate = condition := by
  unfold conjuncts at mem
  split at mem
  · cases mem
  · exact List.mem_singleton.mp mem

/-- Predicates that keep to the names of a query can be added to it. -/
theorem IsScoped.addPredicates {query : Query} {predicates : List Sql.Expression}
    (isScoped : query.IsScoped)
    (within : ∀ predicate ∈ predicates, predicate.IsWithin query.scope.catalog query.names)
    (reads : ∀ predicate ∈ predicates, ∀ read ∈ predicate.reads,
      read.WellScoped query.scope.catalog) : (query.addPredicates predicates).IsScoped where
  select := {
    isScoped.select with
    condition := by
      refine Sql.Expression.isWithin_conjoin_iff.mpr (List.forall_mem_append.mpr ⟨?_, within⟩)
      intro predicate mem
      rw [eq_of_mem_conjuncts mem]
      exact isScoped.select.condition }
  reads := by
    intro read mem
    rw [addPredicates_eq, Sql.reads_conjoin] at mem
    obtain ⟨predicate, inPredicates, inPredicate⟩ := List.mem_flatMap.mp mem
    rcases List.mem_append.mp inPredicates with isConjunct | isAdded
    · rw [eq_of_mem_conjuncts isConjunct] at inPredicate
      exact isScoped.reads read inPredicate
    · exact reads predicate isAdded read inPredicate

/-- The columns a read of a table selects are qualified by the table's name. -/
theorem columns_ofSelection (table : TypeInfo) (selection : Selection) (name : String) :
    ∀ entry ∈ Projection.ofSelection table selection (some name), entry.2.reads = [] ∧
      ∀ reference ∈ entry.2.references, ∃ field, reference = .qualified (.aliased name) field := by
  intro entry mem
  cases selection with
  | fields fieldNames =>
      obtain ⟨field, -, rfl⟩ := List.mem_map.mp mem
      exact ⟨rfl, fun reference isReference => ⟨field, List.mem_singleton.mp isReference⟩⟩
  | all =>
      obtain ⟨⟨field, type⟩, -, rfl⟩ := List.mem_map.mp mem
      cases type <;>
        exact ⟨rfl, fun reference isReference => ⟨field, List.mem_singleton.mp isReference⟩⟩

/-- A query starts with the name of its root table alone. -/
theorem isScoped_of_queryMany {accessor : Accessor} {condition : Condition} {selection : Selection}
    {query : Query} (keyed : accessor.scope.catalog.KeyedByName)
    (started : accessor.queryMany condition selection = .ok query) : query.IsScoped := by
  obtain ⟨table, expression, found, isExpression, rfl⟩ :=
    Accessor.queryMany_eq_ok_iff.mp started
  obtain ⟨predicates, built, rfl⟩ := map_eq_ok_iff.mp isExpression
  have isTable := mapError_eq_ok_iff.mp found
  have sameName := keyed.name_eq isTable
  have each := isWithin_predicates (List.mem_singleton_self (accessor.name, accessor.name)) isTable
    (sameName ▸ built)
  constructor
  · constructor
    · rfl
    · rw [← sameName]
      rfl
    · exact List.nodup_singleton accessor.name
    · exact .nil
    · rw [← sameName]
      exact columns_ofSelection table selection table.name
    · exact Sql.Expression.isWithin_conjoin_iff.mpr fun predicate mem => (each predicate mem).1
    · exact List.forall_mem_nil _
  · intro read mem
    change read ∈ (Sql.Expression.conjoin predicates).reads at mem
    rw [Sql.reads_conjoin] at mem
    obtain ⟨predicate, isPredicate, inPredicate⟩ := List.mem_flatMap.mp mem
    rw [(each predicate isPredicate).2] at inPredicate
    cases inPredicate

/-- The condition of a join names the root table and the joined one. -/
theorem isWithin_joinCondition {catalog : Catalog} {root table : TypeInfo}
    {rootName name field joinedField : String} (keyed : catalog.KeyedByName)
    (rootFound : catalog.lookupTable rootName = .ok root)
    (found : catalog.lookupTable table.name = .ok table)
    (declared : ∃ type, root.fieldType? field = some type)
    (joinedDeclared : ∃ type, table.fieldType? joinedField = some type) :
    (joinCondition root name field joinedField).IsWithin catalog
      [(rootName, rootName), (name, table.name)] := by
  intro reference mem
  rcases List.mem_append.mp mem with inRoot | inJoined
  · rw [keyed.name_eq rootFound] at inRoot
    exact Sql.Expression.isWithin_columnOf List.mem_cons_self rootFound declared reference inRoot
  · exact Sql.Expression.isWithin_columnOf (List.mem_cons_of_mem _ List.mem_cons_self) found
      joinedDeclared reference inJoined

/-- A step that succeeds keeps a query within its scope. -/
theorem IsScoped.apply {query result : Query} {step : Step}
    (keyed : query.scope.catalog.KeyedByName) (isScoped : query.IsScoped)
    (nested : ∀ field inner, step = .whereIn field inner →
      inner.select.WellScoped query.scope.catalog)
    (applied : query.apply step = .ok result) : result.IsScoped := by
  have distinct := isScoped.select.distinct
  cases step with
  | join kind tableName name field joinedField =>
      obtain ⟨root, table, isFree, isRoot, isTable, declared, joinedDeclared, rfl⟩ :=
        join_eq_ok_iff.mp applied
      have rootFound := root_eq_ok_iff.mp isRoot
      have found := mapError_eq_ok_iff.mp isTable
      rw [← keyed.name_eq found] at found
      have joins : Sql.Join.IsScoped query.scope.catalog query.scope.schema query.table
          (name, table.name) ⟨kind, query.scope.reference table, name,
            joinCondition root name field joinedField⟩ :=
        ⟨rfl, rfl, isWithin_joinCondition keyed rootFound found declared joinedDeclared, rfl⟩
      -- What was within the scope of the query stays so with one more name.
      have included : query.names ⊆ (query.table, query.table) ::
          (query.joined ++ [(name, table.name)]) :=
        List.cons_subset_cons _ (List.subset_append_left _ _)
      refine ⟨?_, isScoped.reads⟩
      exact {
        isScoped.select with
        distinct := nodup_keys_of_tableOf? distinct isFree
        joins := List.rel_append isScoped.select.joins (.cons joins .nil)
        condition := isScoped.select.condition.mono included
        ordering := fun entry mem =>
          (isScoped.select.ordering entry mem).imp_right fun within => within.mono included }
  | filter name condition =>
      obtain ⟨tableName, table, predicates, isNamed, isTable, built, rfl⟩ :=
        filter_eq_ok_iff.mp applied
      have each := isWithin_predicates (mem_names_of_tableOf? distinct isNamed)
        (mapError_eq_ok_iff.mp isTable) built
      refine isScoped.addPredicates (fun predicate mem => (each predicate mem).1) ?_
      intro predicate mem read isRead
      rw [(each predicate mem).2] at isRead
      cases isRead
  | whereIn field inner =>
      obtain ⟨root, isRoot, declared, rfl⟩ := whereIn_eq_ok_iff.mp applied
      have found := root_eq_ok_iff.mp isRoot
      refine isScoped.addPredicates (List.forall_mem_singleton.mpr ?_)
        (List.forall_mem_singleton.mpr ?_)
      · exact Sql.Expression.isWithin_columnOf List.mem_cons_self found declared
      · intro read mem
        obtain rfl := List.mem_singleton.mp mem
        exact nested field inner rfl
  | orderBy field direction =>
      obtain ⟨root, isRoot, declared, rfl⟩ := orderBy_eq_ok_iff.mp applied
      have found := root_eq_ok_iff.mp isRoot
      refine ⟨?_, isScoped.reads⟩
      exact {
        isScoped.select with
        ordering := List.forall_mem_append.mpr ⟨isScoped.select.ordering,
          List.forall_mem_singleton.mpr ⟨rfl,
            Sql.Expression.isWithin_columnOf List.mem_cons_self found declared⟩⟩ }
  | limit count =>
      cases applied
      exact ⟨{ isScoped.select with }, isScoped.reads⟩
  | offset count =>
      cases applied
      exact ⟨{ isScoped.select with }, isScoped.reads⟩

/-- Every composed query keeps to its scope, and so does every read nested in it. Its names
are distinct, its joins are the recorded ones, and its clauses name declared fields of the
tables behind these names. -/
theorem isScoped_of_reachable {catalog : Catalog} {query : Query} (keyed : catalog.KeyedByName)
    (reachable : Reachable catalog query) :
    query.scope.catalog = catalog ∧
      query.select.IsScoped catalog query.scope.schema query.table query.joined ∧
      ∀ read ∈ query.select.condition.reads, read.WellScoped catalog := by
  have isScoped : query.scope.catalog = catalog ∧ query.IsScoped := by
    induction reachable with
    | start isOver started =>
        obtain ⟨table, expression, -, -, isStart⟩ := Accessor.queryMany_eq_ok_iff.mp started
        refine ⟨?_, isScoped_of_queryMany (isOver ▸ keyed) started⟩
        rw [isStart]
        exact isOver
    | @step query result step before nested applied ih innerIh =>
        obtain ⟨isOver, isScoped⟩ := ih
        obtain ⟨predicates, -, isExtended⟩ := extend_of_apply applied
        refine ⟨?_, isScoped.apply (isOver ▸ keyed) ?_ applied⟩
        · rw [isExtended]
          exact isOver
        intro field inner isStep
        obtain ⟨innerOver, innerScoped⟩ := innerIh field inner isStep
        rw [isOver, ← innerOver]
        exact innerScoped.wellScoped
  obtain ⟨rfl, select, reads⟩ := isScoped
  exact ⟨rfl, select, reads⟩

/-- Persons with a manager of some name among the managers of others: the table is joined to
itself, and the nested read gives the same name to a join of its own. -/
theorem isScoped_of_reachable_managers :
    let person : TypeInfo := .table "Person" [("id", .id), ("name", .string), ("managerId", .id)]
    let scope : Scope := ⟨.ofTypes [person], "public"⟩
    let start (selected : List String) : Query :=
      ⟨scope, "Person", [], scope.readOf person (.fields selected) .always none⟩
    let joined : Sql.Join := ⟨.inner, .stored "public" "Person", "manager",
      joinCondition person "manager" "managerId" "id"⟩
    let read (selected : List String) (condition : Sql.Expression) : Sql.Select :=
      { scope.readOf person (.fields selected) condition none with joins := [joined] }
    let inner : Query := ⟨scope, "Person", [("manager", "Person")], read ["managerId"]
      (.isNull (.columnOf (some "manager") "managerId"))⟩
    let query : Query := ⟨scope, "Person", [("manager", "Person")],
      { read ["name"] (.conjunction
          (.comparison (.columnOf (some "manager") "name") .equals (.constant (.string "ada")))
          (.inSelect (.columnOf (some "Person") "id") inner.select)) with
        ordering := [(.columnOf (some "Person") "name", .ascending)] }⟩
    scope.catalog.KeyedByName ∧
      (start ["name"]).run [.join .inner "Person" "manager" "managerId" "id",
        .filter "manager" (Condition.empty.set "name" (.string "ada")), .whereIn "id" inner,
        .orderBy "name" .ascending] = .ok query ∧
      Reachable scope.catalog query ∧ query.scope.catalog = scope.catalog ∧
      query.select.IsScoped scope.catalog "public" "Person" [("manager", "Person")] ∧
      ∀ nested ∈ query.select.condition.reads, nested.WellScoped scope.catalog := by
  intro person scope start joined read inner query
  have keyed : scope.catalog.KeyedByName := List.forall_mem_singleton.mpr rfl
  have started (selected : List String) : Reachable scope.catalog (start selected) :=
    @Reachable.start _ ⟨scope, person⟩ .empty (.fields selected) _ rfl rfl
  have innerRan : (start ["managerId"]).run [.join .inner "Person" "manager" "managerId" "id",
      .filter "manager" (Condition.empty.set "managerId" .null)] = .ok inner := rfl
  have ran : (start ["name"]).run [.join .inner "Person" "manager" "managerId" "id",
      .filter "manager" (Condition.empty.set "name" (.string "ada")), .whereIn "id" inner,
      .orderBy "name" .ascending] = .ok query := rfl
  have innerReachable := (started ["managerId"]).run (by simp) innerRan
  have reachable := (started ["name"]).run (by simpa using innerReachable) ran
  exact ⟨keyed, ran, reachable, isScoped_of_reachable keyed reachable⟩

end Query

end CatalogSql
