import CatalogSql.Proofs.Access.Scoping
import CatalogSql.Proofs.Planning.StoredColumns

/-!
# Columns that composed queries take

The conditions of a query, like the payloads and conditions of a write, may ask for fields with
a column only. A join, a nested read and an ordering are checked for declared fields, so that
they take whatever column their caller names.
-/

namespace CatalogSql

namespace Query

namespace Step

/-- The columns a step takes by itself: each with the name that qualifies it, the name of the
table behind that name, and the field. -/
def taken (rootName : String) : Step → List (String × String × String)
  | .join _ tableName name field joinedField =>
      [(rootName, rootName, field), (name, tableName, joinedField)]
  | .whereIn field _ => [(rootName, rootName, field)]
  | .orderBy field _ => [(rootName, rootName, field)]
  | _ => []

/-- The expressions a step adds to a query, given the predicates it adds. -/
def expressions (scope : Scope) (rootName : String) (predicates : List Sql.Expression)
    (step : Step) : List Sql.Expression :=
  (step.join? scope rootName).toList.map (·.2.condition) ++
    (predicates ++ (step.ordering? rootName).toList.map (·.1))

end Step

variable {query result : Query} {step : Step} {predicates : List Sql.Expression}

/-- What the expressions of a query hold after a step is what they held before and what the
added ones hold. -/
theorem mem_flatMap_extend_iff {Held : Type} {held : Sql.Expression → List Held}
    (onAlways : held .always = [])
    (onConjunction : ∀ left right, held (.conjunction left right) = held left ++ held right)
    {element : Held} :
    element ∈ (query.extend step predicates).select.expressions.flatMap held ↔
      element ∈ query.select.expressions.flatMap held ∨
        element ∈ (step.expressions query.scope query.table predicates).flatMap held := by
  have isHeld := Sql.flatMap_conjoin onAlways onConjunction
  have condition : held (extend query step predicates).select.condition =
      held query.select.condition ++ predicates.flatMap held := by
    rw [extend, isHeld, List.flatMap_append, ← isHeld, conjoin_conjuncts]
  rw [Sql.Select.expressions, Sql.Select.expressions, Step.expressions]
  simp only [List.flatMap_append, List.flatMap_cons, condition]
  simp only [extend, List.map_append, List.flatMap_append, List.map_map, List.mem_append,
    Function.comp_def]
  tauto

/-- A step adds the table it joins to those that are read. -/
theorem tables_extend :
    (query.extend step predicates).select.tables =
      query.select.tables ++ ((step.join? query.scope query.table).toList.map (·.1)) := by
  have joined : ((step.join? query.scope query.table).toList.map (·.2)).filterMap Sql.Join.table? =
      (step.join? query.scope query.table).toList.map (·.1) := by
    cases isJoin : step.join? query.scope query.table with
    | none => rfl
    | some added =>
        unfold Step.join? at isJoin
        split at isJoin
        · split at isJoin
          · cases isJoin
            rfl
          · cases isJoin
        · cases isJoin
  rw [Sql.Select.tables, Sql.Select.tables, extend, List.filterMap_append, joined,
    List.append_assoc]

/-- The table of a name is looked up among the names of the query. -/
theorem tableOf?_eq_lookup? (query : Query) (name : String) :
    query.tableOf? name = Keyed.lookup? name query.names := by
  rw [tableOf?, names, Keyed.lookup?]
  exact if_congr eq_comm rfl rfl

/-- A query is known under the name of its table. -/
theorem lookup?_root (query : Query) :
    Keyed.lookup? query.table query.names = some query.table := by
  rw [names, Keyed.lookup?]
  exact if_pos rfl

/-- The columns a step takes by itself are among those of the expressions it adds, qualified by
names that stand for their tables. -/
theorem mem_references_of_taken (keyed : query.scope.catalog.KeyedByName)
    (isNames : query.select.tables = query.names) (applied : query.apply step = .ok result)
    (restricts : query.Restricts step predicates) :
    ∀ entry ∈ step.taken query.table,
      .qualified (.aliased entry.1) entry.2.2 ∈
        (step.expressions query.scope query.table predicates).flatMap Sql.Expression.references ∧
      Keyed.lookup? entry.1 (query.extend step predicates).select.tables = some entry.2.1 := by
  have isRootName : Keyed.lookup? query.table (query.extend step predicates).select.tables =
      some query.table := by
    rw [tables_extend, Keyed.lookup?_append, isNames, lookup?_root, Option.some_or]
  cases step with
  | join kind tableName name field joinedField =>
      obtain ⟨root, table, isFree, isRoot, isTable, -, -, -⟩ := join_eq_ok_iff.mp applied
      have rootFound := root_eq_ok_iff.mp isRoot
      have found := mapError_eq_ok_iff.mp isTable
      have added : Step.join? query.scope query.table
          (.join kind tableName name field joinedField) =
          some ((name, table.name), ⟨kind, query.scope.reference table, name,
            joinCondition root name field joinedField⟩) := by
        simp only [Step.join?, mapError_eq_ok_iff.mp isRoot, isTable]
      rw [tableOf?_eq_lookup?] at isFree
      refine List.forall_mem_cons.mpr ⟨⟨?_, isRootName⟩, List.forall_mem_singleton.mpr ⟨?_, ?_⟩⟩
      · rw [Step.expressions, added, ← keyed.name_eq rootFound]
        exact List.mem_cons_self
      · rw [Step.expressions, added]
        exact List.mem_cons_of_mem _ List.mem_cons_self
      · rw [tables_extend, Keyed.lookup?_append, isNames, isFree, Option.none_or, added,
          ← keyed.name_eq found]
        exact if_pos rfl
  | whereIn field inner =>
      cases restricts
      exact List.forall_mem_singleton.mpr ⟨List.mem_cons_self, isRootName⟩
  | orderBy field direction =>
      cases restricts
      exact List.forall_mem_singleton.mpr ⟨List.mem_cons_self, isRootName⟩
  | _ => exact List.forall_mem_nil _

/-- A column of the expressions a step adds is one the step takes by itself, or one that a
condition asks for, which is a column of a field that has one. -/
theorem isFrom_or_taken (keyed : query.scope.catalog.KeyedByName)
    (isNames : query.select.tables = query.names) (applied : query.apply step = .ok result)
    (restricts : query.Restricts step predicates) :
    ∀ reference ∈
        (step.expressions query.scope query.table predicates).flatMap Sql.Expression.references,
      reference.IsFrom query.select.tables query.scope.catalog.HasColumn ∨
        ∃ entry ∈ step.taken query.table, reference = .qualified (.aliased entry.1) entry.2.2 := by
  intro reference mem
  cases step with
  | join kind tableName name field joinedField =>
      obtain ⟨root, table, -, isRoot, isTable, -, -, -⟩ := join_eq_ok_iff.mp applied
      have rootFound := root_eq_ok_iff.mp isRoot
      cases restricts
      simp only [Step.expressions, Step.join?, mapError_eq_ok_iff.mp isRoot, isTable] at mem
      rw [← keyed.name_eq rootFound]
      rcases List.mem_cons.mp mem with rfl | mem
      · exact .inr ⟨_, List.mem_cons_self, rfl⟩
      · exact .inr ⟨_, List.mem_cons_of_mem _ List.mem_cons_self, List.mem_singleton.mp mem⟩
  | filter name condition =>
      cases restricts with
      | @filter _ tableName table _ _ isNamed found built =>
          rw [tableOf?_eq_lookup?, ← isNames] at isNamed
          obtain ⟨predicate, isPredicate, inPredicate⟩ := List.mem_flatMap.mp mem
          simp only [Step.expressions, Step.join?, Step.ordering?, Option.toList_none,
            List.map_nil, List.nil_append, List.append_nil] at isPredicate
          obtain ⟨field, rfl, stored⟩ :=
            (Condition.columns_of_predicates built predicate isPredicate).2 reference inPredicate
          exact .inl ⟨name, tableName, field, rfl, isNamed, table, mapError_eq_ok_iff.mp found,
            stored⟩
  | whereIn field inner =>
      cases restricts
      exact .inr ⟨_, List.mem_cons_self, List.mem_singleton.mp mem⟩
  | orderBy field direction =>
      cases restricts
      exact .inr ⟨_, List.mem_cons_self, List.mem_singleton.mp mem⟩
  | limit count =>
      cases restricts
      cases mem
  | offset count =>
      cases restricts
      cases mem

/-- The reads that a step nests are those of the query it is given. -/
theorem mem_reads_added_iff (restricts : query.Restricts step predicates) {read : Sql.Select} :
    read ∈ (step.expressions query.scope query.table predicates).flatMap Sql.Expression.reads ↔
      ∃ field inner, step = .whereIn field inner ∧ read = inner.select := by
  cases restricts with
  | join kind tableName name field joinedField =>
      simp only [Step.expressions, Step.join?, Step.ordering?]
      split <;> simp [joinCondition, Sql.Expression.reads, Sql.reads_columnOf]
  | filter isNamed found built =>
      have noReads : predicates.flatMap Sql.Expression.reads = [] :=
        List.flatMap_eq_nil_iff.mpr fun predicate mem =>
          (Condition.columns_of_predicates built predicate mem).1
      simp [Step.expressions, Step.join?, Step.ordering?, noReads]
  | whereIn field inner =>
      simp [Step.expressions, Step.join?, Step.ordering?, Sql.Expression.reads,
        Sql.reads_columnOf]
  | orderBy field direction =>
      simp [Step.expressions, Step.join?, Step.ordering?, Sql.reads_columnOf]
  | limit count => simp [Step.expressions, Step.join?, Step.ordering?]
  | offset count => simp [Step.expressions, Step.join?, Step.ordering?]

/-! ## Queries over stored columns -/

/-- A query whose read is of the tables it records. -/
structure Records (query : Query) : Prop where
  shared : query.select.shared = []
  source : ∃ schema table name, query.select.source = some (.table (.stored schema table) name)
  tables : query.select.tables = query.names

/-- A recorded query stays recorded over a step. -/
theorem Records.extend (records : query.Records) :
    (query.extend step predicates).Records where
  shared := records.shared
  source := records.source
  tables := by
    rw [tables_extend, records.tables]
    rfl

/-- A step that succeeds takes what it names by itself, and besides only columns of fields that
have one. -/
theorem takesOnly_extend {allowed : String → String → Prop}
    (keyed : query.scope.catalog.KeyedByName) (records : query.Records)
    (applied : query.apply step = .ok result) (restricts : query.Restricts step predicates)
    (only : query.select.TakesOnly allowed)
    (stored : ∀ table field, query.scope.catalog.HasColumn table field → allowed table field)
    (named : ∀ entry ∈ step.taken query.table, allowed entry.2.1 entry.2.2)
    (nested : ∀ field inner, step = .whereIn field inner → inner.select.TakesOnly allowed) :
    (query.extend step predicates).select.TakesOnly allowed := by
  cases only with
  | nested shared source own reads =>
      refine .nested shared source (fun reference mem => ?_) fun read mem => ?_
      · rcases (mem_flatMap_extend_iff rfl fun _ _ => rfl).mp mem with before | added
        · rw [tables_extend]
          exact (own reference before).append _
        · rcases isFrom_or_taken keyed records.tables applied restricts reference added with
            isFrom | ⟨entry, isTaken, rfl⟩
          · rw [tables_extend]
            exact (isFrom.mono stored).append _
          · have behind :=
              (mem_references_of_taken keyed records.tables applied restricts entry isTaken).2
            exact ⟨_, _, _, rfl, behind, named entry isTaken⟩
      · rcases (mem_flatMap_extend_iff rfl fun _ _ => rfl).mp mem with before | added
        · exact reads read before
        · obtain ⟨field, inner, isNested, rfl⟩ := (mem_reads_added_iff restricts).mp added
          exact nested field inner isNested

/-- A column that a query takes is still taken after a step. -/
theorem takes_extend {table field : String} (takes : query.select.Takes table field) :
    (query.extend step predicates).select.Takes table field := by
  cases takes with
  | own isReference behind =>
      refine .own ((mem_flatMap_extend_iff rfl fun _ _ => rfl).mpr (.inl isReference)) ?_
      rw [tables_extend, Keyed.lookup?_append, behind, Option.some_or]
  | nested isRead takes =>
      exact .nested ((mem_flatMap_extend_iff rfl fun _ _ => rfl).mpr (.inl isRead)) takes

/-- A query over a catalog, started by a read of all fields and extended by steps that succeed,
with the tables and fields that its joins, nested reads and orderings name. -/
inductive Assembled (catalog : Catalog) : Query → List (String × String) → Prop where
  | start {accessor : Accessor} {condition : Condition} {query : Query}
      (isOver : accessor.scope.catalog = catalog)
      (started : accessor.queryMany condition .all = .ok query) : Assembled catalog query []
  | step {query result : Query} {taken : List (String × String)} {step : Step}
      (before : Assembled catalog query taken)
      (notNesting : ∀ field inner, step ≠ .whereIn field inner)
      (applied : query.apply step = .ok result) :
      Assembled catalog result (taken ++ (step.taken query.table).map (·.2))
  | nest {query inner result : Query} {taken innerTaken : List (String × String)}
      {field : String} (before : Assembled catalog query taken)
      (nested : Assembled catalog inner innerTaken)
      (applied : query.apply (.whereIn field inner) = .ok result) :
      Assembled catalog result (taken ++ (query.table, field) :: innerTaken)

variable {catalog : Catalog} {taken : List (String × String)}

/-- A read of all fields selects columns of fields that have one. -/
theorem columns_ofTable (table : TypeInfo) (name : String) :
    ∀ entry ∈ Projection.ofTable table (some name), entry.2.reads = [] ∧
      ∀ reference ∈ entry.2.references, ∃ field,
        reference = .qualified (.aliased name) field ∧ table.HasColumn field := by
  intro entry mem
  obtain ⟨⟨field, type⟩, isStored, rfl⟩ := List.mem_map.mp mem
  have stored : table.HasColumn field := ⟨type, TypeInfo.mem_storableFields_iff.mp isStored⟩
  cases type <;>
    exact ⟨rfl, fun reference isReference => ⟨field, List.mem_singleton.mp isReference, stored⟩⟩

/-- A query that has just been started takes columns of fields that have one. -/
theorem takesOnly_of_queryMany {accessor : Accessor} {condition : Condition}
    (keyed : accessor.scope.catalog.KeyedByName)
    (started : accessor.queryMany condition .all = .ok query) :
    query.Records ∧ query.select.TakesOnly accessor.scope.catalog.HasColumn := by
  obtain ⟨table, expression, found, isExpression, rfl⟩ :=
    Accessor.queryMany_eq_ok_iff.mp started
  obtain ⟨predicates, built, rfl⟩ := map_eq_ok_iff.mp isExpression
  have sameName := keyed.name_eq (mapError_eq_ok_iff.mp found)
  let read := accessor.scope.readOf table .all (.conjoin predicates) none
  have each : ∀ expression ∈ read.expressions, expression.reads = [] ∧
      ∀ reference ∈ expression.references, ∃ field,
        reference = .qualified (.aliased table.name) field ∧ table.HasColumn field := by
    have areBuilt := Condition.columns_of_predicates built
    refine List.forall_mem_append.mpr ⟨List.forall_mem_append.mpr ⟨?_, List.forall_mem_nil _⟩,
      List.forall_mem_singleton.mpr ⟨?_, fun reference mem => ?_⟩⟩
    · exact List.forall_mem_map.mpr (columns_ofTable table table.name)
    · exact (Sql.reads_conjoin predicates).trans
        (List.flatMap_eq_nil_iff.mpr fun predicate mem => (areBuilt predicate mem).1)
    · have mem : reference ∈ predicates.flatMap Sql.Expression.references :=
        Sql.references_conjoin predicates ▸ mem
      obtain ⟨predicate, isPredicate, inPredicate⟩ := List.mem_flatMap.mp mem
      exact (areBuilt predicate isPredicate).2 reference inPredicate
  have tables : read.tables = [(table.name, table.name)] := rfl
  refine ⟨⟨rfl, ⟨_, _, _, rfl⟩, ?_⟩, .nested rfl ⟨_, _, _, rfl⟩ ?_ ?_⟩
  · rw [names, ← sameName]
    exact tables
  · intro reference mem
    obtain ⟨expression, isExpression, inExpression⟩ := List.mem_flatMap.mp mem
    obtain ⟨field, rfl, stored⟩ := (each expression isExpression).2 reference inExpression
    refine ⟨table.name, table.name, field, rfl, if_pos rfl, ?_⟩
    rw [Scope.hasColumn_eq_of_lookupTable keyed found]
    exact stored
  · intro inner mem
    obtain ⟨expression, isExpression, inExpression⟩ := List.mem_flatMap.mp mem
    rw [(each expression isExpression).1] at inExpression
    cases inExpression

/-- A query takes columns of fields that have one, and those that its joins, nested reads and
orderings name. -/
theorem takesOnly_of_assembled (keyed : catalog.KeyedByName)
    (assembled : Assembled catalog query taken) :
    query.scope.catalog = catalog ∧ query.Records ∧ query.select.TakesOnly fun table field =>
      catalog.HasColumn table field ∨ (table, field) ∈ taken := by
  induction assembled with
  | start isOver started =>
      subst isOver
      obtain ⟨records, only⟩ := takesOnly_of_queryMany keyed started
      obtain ⟨table, expression, -, -, rfl⟩ := Accessor.queryMany_eq_ok_iff.mp started
      exact ⟨rfl, records, only.mono fun _ _ => .inl⟩
  | @step query result taken step before notNesting applied ih =>
      obtain ⟨rfl, records, only⟩ := ih
      obtain ⟨predicates, restricts, rfl⟩ := extend_of_apply applied
      refine ⟨rfl, records.extend, takesOnly_extend keyed records applied restricts ?_ ?_ ?_ ?_⟩
      · exact only.mono fun _ _ => .imp_right (List.mem_append_left _)
      · exact fun _ _ => .inl
      · exact fun entry mem => .inr (List.mem_append_right _ (List.mem_map_of_mem mem))
      · exact fun field inner isNesting => absurd isNesting (notNesting field inner)
  | @nest query inner result taken innerTaken field before nested applied ih innerIh =>
      obtain ⟨rfl, records, only⟩ := ih
      obtain ⟨sameCatalog, -, innerOnly⟩ := innerIh
      obtain ⟨predicates, restricts, rfl⟩ := extend_of_apply applied
      refine ⟨rfl, records.extend, takesOnly_extend keyed records applied restricts ?_ ?_ ?_ ?_⟩
      · exact only.mono fun _ _ => .imp_right (List.mem_append_left _)
      · exact fun _ _ => .inl
      · exact List.forall_mem_singleton.mpr (.inr (List.mem_append_right _ List.mem_cons_self))
      · rintro _ _ ⟨⟩
        exact innerOnly.mono fun _ _ => .imp_right fun mem =>
          List.mem_append_right _ (List.mem_cons_of_mem _ mem)

/-- A query takes every column that its joins, nested reads and orderings name. -/
theorem takes_of_assembled (keyed : catalog.KeyedByName)
    (assembled : Assembled catalog query taken) :
    ∀ entry ∈ taken, query.select.Takes entry.1 entry.2 := by
  have takesOwn {query result : Query} {taken : List (String × String)} {step : Step}
      (before : Assembled catalog query taken) (applied : query.apply step = .ok result) :
      ∀ entry ∈ step.taken query.table, result.select.Takes entry.2.1 entry.2.2 := by
    obtain ⟨rfl, records, -⟩ := takesOnly_of_assembled keyed before
    obtain ⟨predicates, restricts, rfl⟩ := extend_of_apply applied
    intro entry mem
    obtain ⟨isReference, behind⟩ :=
      mem_references_of_taken keyed records.tables applied restricts entry mem
    exact .own ((mem_flatMap_extend_iff rfl fun _ _ => rfl).mpr (.inr isReference)) behind
  induction assembled with
  | start => exact List.forall_mem_nil _
  | step before _ applied ih =>
      refine List.forall_mem_append.mpr ⟨fun entry mem => ?_, ?_⟩
      · obtain ⟨predicates, -, rfl⟩ := extend_of_apply applied
        exact takes_extend (ih entry mem)
      · exact List.forall_mem_map.mpr (takesOwn before applied)
  | nest before nested applied ih innerIh =>
      have own := takesOwn before applied
      obtain ⟨predicates, restricts, rfl⟩ := extend_of_apply applied
      refine List.forall_mem_append.mpr ⟨fun entry mem => takes_extend (ih entry mem),
        List.forall_mem_cons.mpr ⟨own _ List.mem_cons_self, fun entry mem => ?_⟩⟩
      have isNested := (mem_reads_added_iff restricts).mpr ⟨_, _, rfl, rfl⟩
      exact .nested ((mem_flatMap_extend_iff rfl fun _ _ => rfl).mpr (.inr isNested))
        (innerIh entry mem)

end Query

/-- Statements take columns of fields that have one, and requests that need another are refused,
except for the columns that the joins, nested reads and orderings of a query name: these are
taken as they are named. -/
theorem takes_stored_columns (scope : Scope) (keyed : scope.catalog.KeyedByName) :
    (∀ plan, scope.PlansWrite plan → plan.statement.TakesOnly scope.catalog.HasColumn) ∧
    (∀ query taken, Query.Assembled scope.catalog query taken →
      query.plan.statement.TakesOnly (fun table field =>
        scope.catalog.HasColumn table field ∨ (table, field) ∈ taken) ∧
      (query.plan.statement.TakesOnly scope.catalog.HasColumn ↔
        ∀ entry ∈ taken, scope.catalog.HasColumn entry.1 entry.2)) ∧
    ∀ tableName table field type, scope.lookupTable tableName = .ok table →
      table.fieldType? field = some type → ¬ type.isStorable →
      scope.Refuses tableName table field type ∧
      ∀ (query result : Query) (name : String) (condition : Condition), query.scope = scope →
        query.tableOf? name = some tableName → condition.Asks table field →
        query.filter name condition ≠ .ok result := by
  refine ⟨fun plan writes => Scope.takesOnly_of_plansWrite keyed writes,
    fun query taken assembled => ?_, ?_⟩
  · obtain ⟨-, -, only⟩ := Query.takesOnly_of_assembled keyed assembled
    refine ⟨only, fun stored entry mem => ?_, fun stored => only.mono ?_⟩
    · exact stored.allowed_of_takes (Query.takes_of_assembled keyed assembled entry mem)
    · rintro table field (hasColumn | mem)
      · exact hasColumn
      · exact stored (table, field) mem
  · intro tableName table field type found declared noColumn
    have refuses := Scope.refuses_of_not_storable found declared noColumn
    refine ⟨refuses, ?_⟩
    rintro query result name condition rfl isNamed asks filtered
    obtain ⟨_, _, predicates, isNamedAgain, foundAgain, built, -⟩ :=
      Query.filter_eq_ok_iff.mp filtered
    cases isNamed.symm.trans isNamedAgain
    cases found.symm.trans foundAgain
    exact refuses.condition asks (some name) predicates built

/-- Users with their posts, in the order of their names: the relation to the posts has no column,
and a condition that asks for it is refused. -/
theorem takes_stored_columns_user :
    let user : TypeInfo := .table "User" [("id", .id), ("name", .string), ("posts", .relation)]
    let post : TypeInfo := .table "Post" [("id", .id), ("userId", .id)]
    let scope : Scope := ⟨⟨[("Post", post), ("User", user)], by decide +kernel⟩, "public"⟩
    let start : Query := ⟨scope, "User", [], scope.readOf user .all .always none⟩
    scope.catalog.KeyedByName ∧
      (∃ plan, scope.planDelete "User" .empty = .ok plan ∧
        plan.statement.TakesOnly scope.catalog.HasColumn) ∧
      (∃ joined query, start.apply (.join .inner "Post" "Post" "id" "userId") = .ok joined ∧
        joined.apply (.orderBy "name" .ascending) = .ok query ∧
        query.plan.statement.TakesOnly scope.catalog.HasColumn) ∧
      scope.lookupTable "User" = .ok user ∧ user.fieldType? "posts" = some .relation ∧
      ¬ SemanticType.isStorable .relation ∧
      (∀ plan, scope.planDelete "User" (Condition.empty.set "posts" .null) ≠ .ok plan) ∧
      ∀ result, start.filter "User" (Condition.empty.set "posts" .null) ≠ .ok result := by
  intro user post scope start
  have keyed : scope.catalog.KeyedByName :=
    List.forall_mem_cons.mpr ⟨rfl, List.forall_mem_singleton.mpr rfl⟩
  have isUser : scope.lookupTable "User" = .ok user := rfl
  have userStored : scope.catalog.lookupTable "User" = .ok user := rfl
  have postStored : scope.catalog.lookupTable "Post" = .ok post := rfl
  have noColumn : ¬ SemanticType.isStorable .relation := by decide
  have asks : (Condition.empty.set "posts" .null).Asks user "posts" :=
    ⟨"posts", .null, ⟨"posts", .relation, .equals⟩, List.mem_cons_self, ⟨rfl, rfl⟩, rfl⟩
  obtain ⟨writes, queries, refused⟩ := takes_stored_columns scope keyed
  obtain ⟨refuses, filters⟩ := refused "User" user "posts" .relation isUser rfl noColumn
  have isDelete : scope.planDelete "User" .empty = .ok _ := rfl
  obtain ⟨joined, isJoined, query, isOrdered⟩ : ∃ joined,
      start.apply (.join .inner "Post" "Post" "id" "userId") = .ok joined ∧
      ∃ query, joined.apply (.orderBy "name" .ascending) = .ok query := ⟨_, rfl, _, rfl⟩
  have started : Query.Assembled scope.catalog start [] :=
    @Query.Assembled.start _ ⟨scope, user⟩ .empty _ rfl rfl
  have assembled := (started.step (by rintro _ _ ⟨⟩) isJoined).step (by rintro _ _ ⟨⟩) isOrdered
  refine ⟨keyed, ⟨_, isDelete, writes _ (.delete isDelete)⟩,
    ⟨joined, query, isJoined, isOrdered, (queries query _ assembled).2.mpr ?_⟩, isUser, rfl,
    noColumn, refuses.delete asks, fun result => filters start result "User" _ rfl rfl asks⟩
  cases isJoined
  exact List.forall_mem_cons.mpr ⟨⟨user, userStored, .id, rfl, rfl⟩,
    List.forall_mem_cons.mpr ⟨⟨post, postStored, .id, rfl, rfl⟩,
      List.forall_mem_singleton.mpr ⟨user, userStored, .string, rfl, rfl⟩⟩⟩

/-- Users in the order of their posts: the relation is no column, and yet the query takes it. -/
theorem takes_relation :
    let user : TypeInfo := .table "User" [("id", .id), ("posts", .relation)]
    let scope : Scope := ⟨⟨[("User", user)], by decide +kernel⟩, "public"⟩
    let start : Query := ⟨scope, "User", [], scope.readOf user .all .always none⟩
    scope.catalog.KeyedByName ∧ Accessor.queryMany ⟨scope, user⟩ .empty .all = .ok start ∧
      ∃ query, start.orderBy "posts" .ascending = .ok query ∧
        ¬ query.plan.statement.TakesOnly scope.catalog.HasColumn := by
  intro user scope start
  refine ⟨List.forall_mem_singleton.mpr rfl, rfl, _, rfl, fun only => ?_⟩
  have takes : scope.catalog.HasColumn "User" "posts" :=
    only.allowed_of_takes (.own (List.mem_cons_of_mem _ List.mem_cons_self) rfl)
  obtain ⟨_, found, type, declared, storable⟩ := takes
  cases found
  cases declared
  cases storable

end CatalogSql
