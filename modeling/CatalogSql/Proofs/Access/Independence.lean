import CatalogSql.Proofs.Access.Runs

/-!
# Independence of steps

Steps on different clauses of a query may be given in any order. A query is settled by its
joins, its restrictions and its orderings, each in their own order, and by the last bounds;
how these are mixed does not matter, and none of them is lost.
-/

namespace CatalogSql

namespace Query

namespace Step

/-- Whether a step joins a table. -/
def isJoin : Step → Bool
  | .join .. => true
  | _ => false

/-- Whether a step restricts the rows. -/
def isRestriction : Step → Bool
  | .filter .. | .whereIn .. => true
  | _ => false

/-- Whether a step orders the rows. -/
def isOrdering : Step → Bool
  | .orderBy .. => true
  | _ => false

end Step

/-- Steps that agree clause by clause, however they are mixed. -/
structure SameClauses (steps others : List Step) : Prop where
  joins : steps.filter Step.isJoin = others.filter Step.isJoin
  restrictions : steps.filter Step.isRestriction = others.filter Step.isRestriction
  orderings : steps.filter Step.isOrdering = others.filter Step.isOrdering
  limit : (steps.filterMap Step.limit?).getLast? = (others.filterMap Step.limit?).getLast?
  offset : (steps.filterMap Step.offset?).getLast? = (others.filterMap Step.offset?).getLast?

/-- What steps of one kind add is all that is added, when other steps add nothing. -/
theorem filterMap_eq_of_filter {Added : Type} {kind : Step → Bool} {added? : Step → Option Added}
    {steps others : List Step} (same : steps.filter kind = others.filter kind)
    (onKind : ∀ step, kind step = false → added? step = none) :
    steps.filterMap added? = others.filterMap added? := by
  have ofKind : ∀ steps : List Step,
      (steps.filter kind).filterMap added? = steps.filterMap added? := by
    intro steps
    rw [List.filterMap_filter]
    congr 1
    funext step
    cases isKind : kind step with
    | true => rfl
    | false => exact (onKind step isKind).symm
  rw [← ofKind steps, ← ofKind others, same]

/-- A step of another kind adds no predicate. -/
theorem Restricts.eq_nil {query : Query} {step : Step} {predicates : List Sql.Expression}
    (restricts : query.Restricts step predicates) (noRestriction : step.isRestriction = false) :
    predicates = [] := by
  cases restricts with
  | filter => cases noRestriction
  | whereIn => cases noRestriction
  | _ => rfl

/-- The predicates of steps are those of the restrictions among them. -/
theorem restricts_filter {query : Query} {steps : List Step} {added : List (List Sql.Expression)}
    (restricts : List.Forall₂ query.Restricts steps added) :
    ∃ restricted, List.Forall₂ query.Restricts (steps.filter Step.isRestriction) restricted ∧
      restricted.flatten = added.flatten := by
  induction restricts with
  | nil => exact ⟨[], .nil, rfl⟩
  | @cons step predicates _ _ first _ ih =>
      obtain ⟨restricted, areRestricted, same⟩ := ih
      cases isRestriction : step.isRestriction with
      | true =>
          refine ⟨predicates :: restricted, ?_, ?_⟩
          · rw [List.filter_cons_of_pos isRestriction]
            exact .cons first areRestricted
          · rw [List.flatten_cons, List.flatten_cons, same]
      | false =>
          obtain rfl := first.eq_nil isRestriction
          refine ⟨restricted, ?_, same⟩
          rw [List.filter_cons_of_neg (by rw [isRestriction]; exact Bool.false_ne_true)]
          exact areRestricted

/-- Queries with one frame and the same clauses are one query. -/
theorem SameFrame.eq {query other : Query} (frame : query.SameFrame other)
    (joined : other.joined = query.joined) (joins : other.select.joins = query.select.joins)
    (condition : other.select.condition = query.select.condition)
    (ordering : other.select.ordering = query.select.ordering)
    (limit : other.select.limit = query.select.limit)
    (offset : other.select.offset = query.select.offset) : other = query := by
  obtain ⟨scope, table, shared, columns, source⟩ := frame
  cases query with
  | mk _ _ _ select =>
      cases other with
      | mk _ _ _ otherSelect =>
          cases select
          cases otherSelect
          cases scope
          cases table
          cases shared
          cases columns
          cases source
          cases joined
          cases joins
          cases condition
          cases ordering
          cases limit
          cases offset
          rfl

theorem SameFrame.symm {query other : Query} (frame : query.SameFrame other) :
    other.SameFrame query :=
  ⟨frame.scope.symm, frame.table.symm, frame.shared.symm, frame.columns.symm, frame.source.symm⟩

variable {start result other : Query} {steps others : List Step}
  {added otherAdded : List (List Sql.Expression)}

/-- Runs whose steps agree clause by clause add the same predicates. -/
theorem Ran.sameAdded (ran : start.Ran steps added result)
    (otherRan : start.Ran others otherAdded other) (same : SameClauses steps others)
    (joined : other.joined = result.joined) : otherAdded.flatten = added.flatten := by
  obtain ⟨restricted, areRestricted, isAdded⟩ := restricts_filter ran.restricts
  obtain ⟨otherRestricted, othersRestricted, isOtherAdded⟩ := restricts_filter otherRan.restricts
  have scope : result.scope = other.scope := ran.scope.trans otherRan.scope.symm
  have table : result.table = other.table := ran.table.trans otherRan.table.symm
  have joinedAgain : result.joined = other.joined ++ [] := by rw [joined, List.append_nil]
  have again : List.Forall₂ result.Restricts (steps.filter Step.isRestriction) otherRestricted := by
    rw [same.restrictions]
    exact othersRestricted.imp fun _ _ restricts => restricts.mono scope table joinedAgain
  have unique : Relator.RightUnique result.Restricts :=
    fun _ _ _ restricts again => restricts.unique again
  rw [← isAdded, ← isOtherAdded, unique.forall₂ areRestricted again]

/-- Runs of one query whose steps agree clause by clause end in one query. -/
theorem Ran.eq_of_sameClauses {base : List Sql.Expression} (ran : start.Ran steps added result)
    (otherRan : start.Ran others otherAdded other) (same : SameClauses steps others)
    (noneAlways : ∀ predicate ∈ base, predicate ≠ Sql.Expression.always)
    (isBase : start.select.condition = .conjoin base) : other = result := by
  have joinsAlike : steps.filterMap (Step.join? start.scope start.table) =
      others.filterMap (Step.join? start.scope start.table) := by
    refine filterMap_eq_of_filter same.joins ?_
    rintro (_ | _ | _ | _ | _ | _) notKind
    · cases notKind
    all_goals rfl
  have orderingsAlike : steps.filterMap (Step.ordering? start.table) =
      others.filterMap (Step.ordering? start.table) := by
    refine filterMap_eq_of_filter same.orderings ?_
    rintro (_ | _ | _ | _ | _ | _) notKind
    case orderBy => cases notKind
    all_goals rfl
  have joined : other.joined = result.joined := by
    rw [ran.joined, otherRan.joined, joinsAlike]
  refine (ran.toSameFrame.symm.trans otherRan.toSameFrame).eq joined ?_ ?_ ?_ ?_ ?_
  · rw [ran.joins, otherRan.joins, joinsAlike]
  · rw [ran.condition base noneAlways isBase, otherRan.condition base noneAlways isBase,
      ran.sameAdded otherRan same joined]
  · rw [ran.ordering, otherRan.ordering, orderingsAlike]
  · rw [ran.limit, otherRan.limit, same.limit]
  · rw [ran.offset, otherRan.offset, same.offset]

/-! ## Kept clauses -/

/-- What a join adds to a query on a root table: the name it gives, with the name of the table
behind it, and the joined table, where its field equals the root's. -/
inductive Step.Joins (scope : Scope) (root : TypeInfo) :
    Step → (String × String) × Sql.Join → Prop where
  | intro {kind : Sql.JoinKind} {tableName name field joinedField : String} {table : TypeInfo}
      (found : scope.lookupTable tableName = .ok table) :
      Joins scope root (.join kind tableName name field joinedField)
        ((name, table.name), ⟨kind, .stored scope.schema table.name, name,
          .comparison (.column (.qualified (.aliased root.name) field)) .equals
            (.column (.qualified (.aliased name) joinedField))⟩)

/-- Every join of a run adds its table. -/
theorem joins_of_run {root : TypeInfo} (isRoot : start.scope.lookupTable start.table = .ok root)
    (ran : start.run steps = .ok result) :
    List.Forall₂ (Step.Joins start.scope root) (steps.filter Step.isJoin)
      (steps.filterMap (Step.join? start.scope start.table)) := by
  induction steps generalizing start with
  | nil => exact .nil
  | cons step rest ih =>
      obtain ⟨next, applied, restRan⟩ := run_cons_eq_ok_iff.mp ran
      have following : List.Forall₂ (Step.Joins start.scope root) (rest.filter Step.isJoin)
          (rest.filterMap (Step.join? start.scope start.table)) := by
        obtain ⟨predicates, -, rfl⟩ := extend_of_apply applied
        exact @ih (start.extend step predicates) isRoot restRan
      cases step with
      | join kind tableName name field joinedField =>
          obtain ⟨_, table, -, -, found, -⟩ := join_eq_ok_iff.mp applied
          have added : Step.join? start.scope start.table
              (.join kind tableName name field joinedField) =
                some ((name, table.name), ⟨kind, start.scope.reference table, name,
                  joinCondition root name field joinedField⟩) := by
            simp only [Step.join?, isRoot, found]
          rw [List.filterMap_cons_some added]
          exact .cons (.intro found) following
      | _ => exact following

/-- What steps make of the clauses of a read that starts without any but its condition: one join
for each that is taken, the orderings in the order in which they are given, and the last bounds. -/
structure KeepsClauses (accessor : Accessor) (root : TypeInfo) (steps : List Step)
    (result : Query) : Prop where
  joins : ∃ joins, List.Forall₂ (Step.Joins accessor.scope root) (steps.filter Step.isJoin) joins ∧
    result.joined = joins.map (·.1) ∧ result.select.joins = joins.map (·.2)
  ordering : result.select.ordering = steps.filterMap (Step.ordering? accessor.name)
  limit : result.select.limit = (steps.filterMap Step.limit?).getLast?
  offset : result.select.offset = (steps.filterMap Step.offset?).getLast?

/-- A run keeps the clauses of its steps. -/
theorem keepsClauses_of_run {accessor : Accessor} {condition : Condition} {selection : Selection}
    {root : TypeInfo} (started : accessor.queryMany condition selection = .ok start)
    (found : accessor.scope.lookupTable accessor.name = .ok root)
    (ran : start.run steps = .ok result) : KeepsClauses accessor root steps result := by
  obtain ⟨_, _, -, -, rfl⟩ := Accessor.queryMany_eq_ok_iff.mp started
  obtain ⟨_, clauses⟩ := ran_of_run ran
  exact {
    joins := ⟨_, joins_of_run found ran, clauses.joined, clauses.joins⟩
    ordering := clauses.ordering
    limit := clauses.limit.trans Option.or_none
    offset := clauses.offset.trans Option.or_none }

/-- Adding no predicate changes nothing. -/
theorem addPredicates_nil (query : Query) : query.addPredicates [] = query := by
  rw [addPredicates_eq, List.append_nil, conjoin_conjuncts]
  cases query with
  | mk scope table joined select =>
      cases select
      rfl

/-- A filter without a set key changes nothing. -/
theorem filter_eq_self {name : String} {condition : Condition}
    (unset : ∀ entry ∈ condition.entries.entries, entry.2 = .unset)
    (filtered : start.filter name condition = .ok result) : result = start := by
  obtain ⟨tableName, table, predicates, -, -, built, rfl⟩ := filter_eq_ok_iff.mp filtered
  have noneSet : Predicate.setEntries condition.entries.entries = [] := by
    refine List.filterMap_eq_nil_iff.mpr ?_
    intro entry mem
    rw [unset entry mem]
    rfl
  have compared := Predicate.compares_of_ofEntries built
  rw [noneSet] at compared
  cases compared
  exact addPredicates_nil start

/-- Steps on different clauses are independent, and none is lost. Runs of a query whose steps
agree clause by clause end in one query; its condition is the conjunction of the predicates
it started with and those that each step adds, in order, and is left out when there are
none; its other clauses hold what the steps on them add. A filter without a set key changes
nothing, wherever it stands. -/
theorem steps_independent {accessor : Accessor} {condition : Condition} {selection : Selection}
    (started : accessor.queryMany condition selection = .ok start) :
    (∀ steps others result other, SameClauses steps others → start.run steps = .ok result →
        start.run others = .ok other → other = result) ∧
      (∀ steps result, start.run steps = .ok result →
        ∃ table base added, accessor.scope.lookupTable accessor.name = .ok table ∧
          condition.predicates table (some table.name) = .ok base ∧
          List.Forall₂ result.Restricts steps added ∧
          result.select.condition = .conjoin (base ++ added.flatten) ∧
          result.select.condition.IsConjunctionOf (base ++ added.flatten) ∧
          (result.select.condition = .always ↔ base = [] ∧ added.flatten = []) ∧
          KeepsClauses accessor table steps result) ∧
      ∀ before name unset after result, (∀ entry ∈ unset.entries.entries, entry.2 = .unset) →
        start.run (before ++ .filter name unset :: after) = .ok result →
          start.run (before ++ after) = .ok result := by
  obtain ⟨table, expression, found, isExpression, isStart⟩ :=
    Accessor.queryMany_eq_ok_iff.mp started
  obtain ⟨base, built, isConjunction⟩ := map_eq_ok_iff.mp isExpression
  have noneAlways := Predicate.forall_ne_always built
  have isBase : start.select.condition = .conjoin base := by
    rw [isStart, isConjunction]
    rfl
  refine ⟨?_, ?_, ?_⟩
  · intro steps others result other same ran otherRan
    obtain ⟨added, clauses⟩ := ran_of_run ran
    obtain ⟨otherAdded, otherClauses⟩ := ran_of_run otherRan
    exact clauses.eq_of_sameClauses otherClauses same noneAlways isBase
  · intro steps result ran
    obtain ⟨added, clauses⟩ := ran_of_run ran
    have conjunction := clauses.condition base noneAlways isBase
    refine ⟨table, base, added, found, built, clauses.restricts, conjunction, ?_, ?_,
      keepsClauses_of_run started found ran⟩
    · rw [conjunction]
      exact Sql.Expression.isConjunctionOf_conjoin _
    rw [conjunction, Predicate.conjoin_eq_always_iff, List.append_eq_nil_iff]
    exact List.forall_mem_append.mpr
      ⟨noneAlways, forall_ne_always_of_restricts clauses.restricts⟩
  · intro before name unset after result isUnset ran
    obtain ⟨middle, ranBefore, ranFilter⟩ := run_append_eq_ok_iff.mp ran
    obtain ⟨next, filtered, ranAfter⟩ := run_cons_eq_ok_iff.mp ranFilter
    obtain rfl := filter_eq_self isUnset filtered
    exact run_append_eq_ok_iff.mpr ⟨next, ranBefore, ranAfter⟩

/-- A read of persons with a join to their managers, two filters, a nested read, orderings,
limits and an offset, composed in two ways. -/
theorem steps_independent_mixed :
    let person : TypeInfo := .table "Person"
      [("id", .id), ("name", .string), ("age", .number), ("managerId", .id)]
    let scope : Scope := ⟨.ofTypes [person], "public"⟩
    let named : Condition := Condition.empty.set "name_contains" (.string "%")
    let read (field : String) (condition : Sql.Expression) : Sql.Select :=
      scope.readOf person (.fields [field]) condition none
    let base : Sql.Expression := .comparison
      (.call .strpos [.columnOf (some "Person") "name", .constant (.string "%")])
      .greaterThan (.constant (.small 0))
    let start : Query := ⟨scope, "Person", [], read "id" base⟩
    let inner : Query := ⟨scope, "Person", [], read "managerId" .always⟩
    let joined : Step := .join .left "Person" "manager" "managerId" "id"
    let young : Step := .filter "Person" (Condition.empty.set "age_lt" (.integer 30))
    let nameless : Step := .filter "manager" (Condition.empty.set "name" .null)
    let unset : Condition := Condition.empty.unset "name"
    let managers : Step := .whereIn "id" inner
    let steps : List Step := [joined, young, .limit 5, nameless, .orderBy "age" .descending,
      .filter "manager" unset, .offset 20, managers, .orderBy "name" .ascending, .limit 10]
    let others : List Step := [young, .offset 20, .orderBy "age" .descending, joined, .limit 10,
      nameless, .filter "manager" unset, .orderBy "name" .ascending, managers]
    let condition : Sql.Expression := .conjunction (.conjunction (.conjunction base
        (.comparison (.columnOf (some "Person") "age") .lessThan (.constant (.integer 30))))
        (.isNull (.columnOf (some "manager") "name")))
      (.inSelect (.columnOf (some "Person") "id") inner.select)
    let result : Query := ⟨scope, "Person", [("manager", "Person")], { read "id" condition with
      joins :=
        [⟨.left, scope.reference person, "manager", joinCondition person "manager" "managerId" "id"⟩]
      ordering := [(.columnOf (some "Person") "age", .descending),
        (.columnOf (some "Person") "name", .ascending)]
      limit := some 10
      offset := some 20 }⟩
    (Accessor.mk scope person).queryMany named (.fields ["id"]) = .ok start ∧
      SameClauses steps others ∧ start.run steps = .ok result ∧
      (∃ other, start.run others = .ok other ∧ other = result) ∧
      KeepsClauses ⟨scope, person⟩ person steps result ∧
      start.run [joined, young, .limit 5, nameless, .orderBy "age" .descending, .offset 20,
        managers, .orderBy "name" .ascending, .limit 10] = .ok result := by
  intro person scope named read base start inner joined young nameless unset managers steps others
    condition result
  have started : (Accessor.mk scope person).queryMany named (.fields ["id"]) = .ok start := rfl
  have same : SameClauses steps others := ⟨rfl, rfl, rfl, rfl, rfl⟩
  have ran : start.run steps = .ok result := rfl
  have otherRan : start.run others = .ok result := rfl
  obtain ⟨independent, kept, unsetIsNeutral⟩ := steps_independent started
  obtain ⟨_, _, _, found, -, -, -, -, -, keepsClauses⟩ := kept steps result ran
  cases found
  have noneSet : ∀ entry ∈ unset.entries.entries, entry.2 = .unset := by
    intro entry mem
    obtain rfl := List.mem_singleton.mp mem
    rfl
  have withoutUnset := unsetIsNeutral
    [joined, young, .limit 5, nameless, .orderBy "age" .descending] "manager" unset
    [.offset 20, managers, .orderBy "name" .ascending, .limit 10] result noneSet ran
  exact ⟨started, same, ran, ⟨result, otherRan,
    independent steps others result result same ran otherRan⟩, keepsClauses, withoutUnset⟩

end Query

end CatalogSql
