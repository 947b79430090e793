import CatalogSql.Proofs.Access.Steps
import CatalogSql.Proofs.Planning.Restriction

/-!
# Runs of steps

A query is composed by steps, one after another, until one of them fails. `Ran` says what a
run makes of a query, clause by clause: every clause grows by what the steps on it add, in
their order, a bound is the last one given, and everything else stays.
-/

namespace CatalogSql

namespace Query

/-- A step that extends a query. -/
inductive Step where
  | join (kind : Sql.JoinKind) (tableName name field joinedField : String)
  | filter (name : String) (condition : Condition)
  | whereIn (field : String) (inner : Query)
  | orderBy (field : String) (direction : Sql.Direction)
  | limit (count : UInt32)
  | offset (count : UInt32)

/-- Takes one step. -/
def apply (query : Query) : Step → Except AccessError Query
  | .join kind tableName name field joinedField => query.join kind tableName name field joinedField
  | .filter name condition => query.filter name condition
  | .whereIn field inner => query.whereIn field inner
  | .orderBy field direction => query.orderBy field direction
  | .limit count => .ok (query.limit count)
  | .offset count => .ok (query.offset count)

/-- Takes steps one after another; the first that fails fails them all. -/
def run (query : Query) : List Step → Except AccessError Query
  | [] => .ok query
  | step :: rest => do (← query.apply step).run rest

/-- Steps run one after another. -/
theorem run_cons_eq_ok_iff {query result : Query} {step : Step} {rest : List Step} :
    query.run (step :: rest) = .ok result ↔
      ∃ next, query.apply step = .ok next ∧ next.run rest = .ok result :=
  bind_eq_ok_iff

/-- A sequence of steps runs as its front and then its rest. -/
theorem run_append_eq_ok_iff {query result : Query} {first second : List Step} :
    query.run (first ++ second) = .ok result ↔
      ∃ middle, query.run first = .ok middle ∧ middle.run second = .ok result := by
  induction first generalizing query with
  | nil => simp [run]
  | cons step rest ih =>
      simp only [List.cons_append, run_cons_eq_ok_iff, ih]
      constructor
      · rintro ⟨next, applied, middle, ran, restRan⟩
        exact ⟨middle, ⟨next, applied, ran⟩, restRan⟩
      · rintro ⟨middle, ⟨next, applied, ran⟩, restRan⟩
        exact ⟨next, applied, middle, ran, restRan⟩

/-! ## What a step adds -/

namespace Step

/-- What a join adds in a scope: the name with the name of the table behind it, and the
joined table. -/
def join? (scope : Scope) (rootName : String) : Step → Option ((String × String) × Sql.Join)
  | .join kind tableName name field joinedField =>
      match scope.lookupTable rootName, scope.lookupTable tableName with
      | .ok root, .ok table =>
          some ((name, table.name), ⟨kind, scope.reference table, name,
            joinCondition root name field joinedField⟩)
      | _, _ => none
  | _ => none

/-- What an ordering adds. -/
def ordering? (rootName : String) : Step → Option (Sql.Expression × Sql.Direction)
  | .orderBy field direction => some (.columnOf (some rootName) field, direction)
  | _ => none

/-- The number of rows a step keeps. -/
def limit? : Step → Option UInt32
  | .limit count => some count
  | _ => none

/-- The number of rows a step skips. -/
def offset? : Step → Option UInt32
  | .offset count => some count
  | _ => none

end Step

/-- The predicates a step adds to the condition of a query. -/
inductive Restricts (query : Query) : Step → List Sql.Expression → Prop where
  | join (kind : Sql.JoinKind) (tableName name field joinedField : String) :
      Restricts query (.join kind tableName name field joinedField) []
  | filter {name tableName : String} {table : TypeInfo} {condition : Condition}
      {predicates : List Sql.Expression} (isNamed : query.tableOf? name = some tableName)
      (found : query.scope.lookupTable tableName = .ok table)
      (built : condition.predicates table (some name) = .ok predicates) :
      Restricts query (.filter name condition) predicates
  | whereIn (field : String) (inner : Query) :
      Restricts query (.whereIn field inner)
        [.inSelect (.columnOf (some query.table) field) inner.select]
  | orderBy (field : String) (direction : Sql.Direction) :
      Restricts query (.orderBy field direction) []
  | limit (count : UInt32) : Restricts query (.limit count) []
  | offset (count : UInt32) : Restricts query (.offset count) []

/-- A step adds one list of predicates. -/
theorem Restricts.unique {query : Query} {step : Step} {predicates others : List Sql.Expression}
    (restricts : query.Restricts step predicates) (again : query.Restricts step others) :
    predicates = others := by
  cases restricts with
  | filter isNamed found built =>
      cases again with
      | filter isNamedAgain foundAgain builtAgain =>
          cases isNamed.symm.trans isNamedAgain
          cases found.symm.trans foundAgain
          exact Except.ok.inj (built.symm.trans builtAgain)
  | _ =>
      cases again
      rfl

/-- No step adds `TRUE` as a predicate. -/
theorem Restricts.ne_always {query : Query} {step : Step} {predicates : List Sql.Expression}
    (restricts : query.Restricts step predicates) :
    ∀ predicate ∈ predicates, predicate ≠ .always := by
  cases restricts with
  | filter isNamed found built => exact Predicate.forall_ne_always built
  | whereIn field inner =>
      refine List.forall_mem_singleton.mpr ?_
      rintro ⟨⟩
  | _ => exact List.forall_mem_nil _

/-- A name that a query knows keeps its table when names are added. -/
theorem tableOf?_of_append {query result : Query} {name tableName : String}
    {added : List (String × String)} (table : result.table = query.table)
    (joined : result.joined = query.joined ++ added)
    (isNamed : query.tableOf? name = some tableName) : result.tableOf? name = some tableName := by
  unfold tableOf? at isNamed ⊢
  rw [table, joined, Keyed.lookup?_append]
  split at isNamed
  · rename_i isRoot
    rw [if_pos isRoot]
    exact isNamed
  · rename_i notRoot
    rw [if_neg notRoot, isNamed, Option.some_or]

/-- What a step adds is not changed by names that are added later. -/
theorem Restricts.mono {query result : Query} {step : Step} {predicates : List Sql.Expression}
    {added : List (String × String)} (restricts : query.Restricts step predicates)
    (scope : result.scope = query.scope) (table : result.table = query.table)
    (joined : result.joined = query.joined ++ added) : result.Restricts step predicates := by
  cases restricts with
  | join kind tableName name field joinedField => exact .join kind tableName name field joinedField
  | filter isNamed found built =>
      exact .filter (tableOf?_of_append table joined isNamed) (scope ▸ found) built
  | whereIn field inner =>
      rw [← table]
      exact .whereIn field inner
  | orderBy field direction => exact .orderBy field direction
  | limit count => exact .limit count
  | offset count => exact .offset count

/-! ## Conditions that grow -/

/-- Adding predicates to a conjunction appends them, as the constant true is none of them. -/
theorem conjoin_conjuncts_append {predicates : List Sql.Expression} (added : List Sql.Expression)
    (noneAlways : ∀ predicate ∈ predicates, predicate ≠ .always) :
    Sql.Expression.conjoin (conjuncts (.conjoin predicates) ++ added) =
      .conjoin (predicates ++ added) := by
  cases predicates with
  | nil => rfl
  | cons first rest =>
      have notAlways : Sql.Expression.conjoin (first :: rest) ≠ .always := by
        rw [ne_eq, Predicate.conjoin_eq_always_iff noneAlways]
        exact List.cons_ne_nil first rest
      rw [conjuncts_of_ne notAlways]
      exact List.foldl_append.symm

/-! ## What a run makes of a query -/

/-- What no step changes. -/
structure SameFrame (start result : Query) : Prop where
  scope : result.scope = start.scope
  table : result.table = start.table
  shared : result.select.shared = start.select.shared
  columns : result.select.columns = start.select.columns
  source : result.select.source = start.select.source

/-- A query has its own frame. -/
theorem SameFrame.refl (query : Query) : query.SameFrame query := ⟨rfl, rfl, rfl, rfl, rfl⟩

/-- Frames stay the same over two stretches of steps. -/
theorem SameFrame.trans {start middle result : Query} (first : start.SameFrame middle)
    (second : middle.SameFrame result) : start.SameFrame result where
  scope := second.scope.trans first.scope
  table := second.table.trans first.table
  shared := second.shared.trans first.shared
  columns := second.columns.trans first.columns
  source := second.source.trans first.source

/-- The clauses of a query after a run, in terms of those before it. The predicates that the
steps add are listed step by step. -/
structure Ran (start : Query) (steps : List Step) (added : List (List Sql.Expression))
    (result : Query) : Prop extends SameFrame start result where
  joined : result.joined =
    start.joined ++ (steps.filterMap (Step.join? start.scope start.table)).map (·.1)
  joins : result.select.joins =
    start.select.joins ++ (steps.filterMap (Step.join? start.scope start.table)).map (·.2)
  restricts : List.Forall₂ result.Restricts steps added
  condition : ∀ base, (∀ predicate ∈ base, predicate ≠ Sql.Expression.always) →
    start.select.condition = .conjoin base →
      result.select.condition = .conjoin (base ++ added.flatten)
  ordering : result.select.ordering =
    start.select.ordering ++ steps.filterMap (Step.ordering? start.table)
  limit : result.select.limit = (steps.filterMap Step.limit?).getLast?.or start.select.limit
  offset : result.select.offset = (steps.filterMap Step.offset?).getLast?.or start.select.offset

/-- No steps leave the query as it is. -/
theorem Ran.refl (query : Query) : query.Ran [] [] query where
  toSameFrame := .refl query
  joined := (List.append_nil _).symm
  joins := (List.append_nil _).symm
  restricts := .nil
  condition base _ isBase := by rw [isBase, List.flatten_nil, List.append_nil]
  ordering := (List.append_nil _).symm
  limit := rfl
  offset := rfl

/-- A query with what a step adds to each of its clauses. -/
def extend (query : Query) (step : Step) (predicates : List Sql.Expression) : Query :=
  let joins := (step.join? query.scope query.table).toList
  { query with
    joined := query.joined ++ joins.map (·.1)
    select := { query.select with
      joins := query.select.joins ++ joins.map (·.2)
      condition := .conjoin (conjuncts query.select.condition ++ predicates)
      ordering := query.select.ordering ++ (step.ordering? query.table).toList
      limit := step.limit?.or query.select.limit
      offset := step.offset?.or query.select.offset } }

/-- A step that succeeds adds to its clause and leaves the others. -/
theorem extend_of_apply {query result : Query} {step : Step}
    (applied : query.apply step = .ok result) :
    ∃ predicates, query.Restricts step predicates ∧ result = query.extend step predicates := by
  cases step with
  | join kind tableName name field joinedField =>
      obtain ⟨root, table, -, isRoot, found, -, -, rfl⟩ := join_eq_ok_iff.mp applied
      have rootFound := mapError_eq_ok_iff.mp isRoot
      refine ⟨[], .join .., ?_⟩
      simp only [extend, Step.join?, rootFound, found, Step.ordering?, Step.limit?, Step.offset?,
        Option.toList_some, Option.toList_none, List.map_cons, List.map_nil, List.append_nil,
        conjoin_conjuncts, Option.none_or]
  | filter name condition =>
      obtain ⟨tableName, table, predicates, isNamed, found, built, rfl⟩ :=
        filter_eq_ok_iff.mp applied
      refine ⟨predicates, .filter isNamed found built, ?_⟩
      simp only [extend, addPredicates_eq, Step.join?, Step.ordering?, Step.limit?, Step.offset?,
        Option.toList_none, List.map_nil, List.append_nil, Option.none_or]
  | whereIn field inner =>
      obtain ⟨root, -, -, rfl⟩ := whereIn_eq_ok_iff.mp applied
      refine ⟨_, .whereIn field inner, ?_⟩
      simp only [extend, addPredicates_eq, Step.join?, Step.ordering?, Step.limit?, Step.offset?,
        Option.toList_none, List.map_nil, List.append_nil, Option.none_or]
  | orderBy field direction =>
      obtain ⟨root, -, -, rfl⟩ := orderBy_eq_ok_iff.mp applied
      refine ⟨[], .orderBy .., ?_⟩
      simp only [extend, Step.join?, Step.ordering?, Step.limit?, Step.offset?, Option.toList_some,
        Option.toList_none, List.map_nil, List.append_nil, conjoin_conjuncts, Option.none_or]
  | limit count =>
      cases applied
      refine ⟨[], .limit count, ?_⟩
      simp only [limit, extend, Step.join?, Step.ordering?, Step.limit?, Step.offset?,
        Option.toList_none, List.map_nil, List.append_nil, conjoin_conjuncts, Option.none_or,
        Option.some_or]
  | offset count =>
      cases applied
      refine ⟨[], .offset count, ?_⟩
      simp only [offset, extend, Step.join?, Step.ordering?, Step.limit?, Step.offset?,
        Option.toList_none, List.map_nil, List.append_nil, conjoin_conjuncts, Option.none_or,
        Option.some_or]

/-- A single step adds what it adds. -/
theorem filterMap_step {Added : Type} (added? : Step → Option Added) (step : Step) :
    [step].filterMap added? = (added? step).toList := by
  cases found : added? step with
  | none => rw [List.filterMap_cons_none found, List.filterMap_nil, Option.toList_none]
  | some added => rw [List.filterMap_cons_some found, List.filterMap_nil, Option.toList_some]

/-- A step that adds predicates is a run of its own. -/
theorem ran_extend {query : Query} {step : Step} {predicates : List Sql.Expression}
    (restricts : query.Restricts step predicates) :
    query.Ran [step] [predicates] (query.extend step predicates) where
  toSameFrame := ⟨rfl, rfl, rfl, rfl, rfl⟩
  joined := by
    rw [filterMap_step]
    rfl
  joins := by
    rw [filterMap_step]
    rfl
  restricts := .cons (restricts.mono rfl rfl rfl) .nil
  condition base noneAlways isBase := by
    rw [extend, isBase, List.flatten_singleton]
    exact conjoin_conjuncts_append predicates noneAlways
  ordering := by
    rw [filterMap_step]
    rfl
  limit := by
    cases step <;> rfl
  offset := by
    cases step <;> rfl

/-- No predicate added by a sequence of steps is `TRUE`. -/
theorem forall_ne_always_of_restricts {query : Query} {steps : List Step}
    {added : List (List Sql.Expression)} (restricts : List.Forall₂ query.Restricts steps added) :
    ∀ predicate ∈ added.flatten, predicate ≠ .always := by
  intro predicate mem
  obtain ⟨predicates, inAdded, inPredicates⟩ := List.mem_flatten.mp mem
  exact forall_mem_of_forall₂ restricts (fun _ _ restricts => restricts.ne_always) predicates
    inAdded predicate inPredicates

/-- The clauses after two runs, one after the other. -/
theorem Ran.append {start middle result : Query} {first second : List Step}
    {added following : List (List Sql.Expression)} (ran : start.Ran first added middle)
    (restRan : middle.Ran second following result) :
    start.Ran (first ++ second) (added ++ following) result where
  toSameFrame := ran.toSameFrame.trans restRan.toSameFrame
  joined := by
    rw [restRan.joined, ran.joined, ran.scope, ran.table, List.filterMap_append, List.map_append,
      List.append_assoc]
  joins := by
    rw [restRan.joins, ran.joins, ran.scope, ran.table, List.filterMap_append, List.map_append,
      List.append_assoc]
  restricts := by
    refine List.rel_append ?_ restRan.restricts
    exact ran.restricts.imp fun _ _ restricts =>
      restricts.mono restRan.scope restRan.table restRan.joined
  condition base noneAlways isBase := by
    have middleBase := ran.condition base noneAlways isBase
    have middleNone : ∀ predicate ∈ base ++ added.flatten, predicate ≠ .always :=
      List.forall_mem_append.mpr ⟨noneAlways, forall_ne_always_of_restricts ran.restricts⟩
    rw [restRan.condition _ middleNone middleBase, List.flatten_append, List.append_assoc]
  ordering := by
    rw [restRan.ordering, ran.ordering, ran.table, List.filterMap_append, List.append_assoc]
  limit := by
    rw [restRan.limit, ran.limit, List.filterMap_append, List.getLast?_append, Option.or_assoc]
  offset := by
    rw [restRan.offset, ran.offset, List.filterMap_append, List.getLast?_append, Option.or_assoc]

/-- A run that succeeds adds to the clauses what its steps add. -/
theorem ran_of_run {start result : Query} {steps : List Step}
    (ran : start.run steps = .ok result) : ∃ added, start.Ran steps added result := by
  induction steps generalizing start with
  | nil =>
      cases ran
      exact ⟨[], .refl _⟩
  | cons step rest ih =>
      obtain ⟨next, applied, restRan⟩ := run_cons_eq_ok_iff.mp ran
      obtain ⟨predicates, restricts, rfl⟩ := extend_of_apply applied
      obtain ⟨following, others⟩ := ih restRan
      exact ⟨predicates :: following, (ran_extend restricts).append others⟩

end Query

end CatalogSql
