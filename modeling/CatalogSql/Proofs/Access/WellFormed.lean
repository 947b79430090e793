import CatalogSql.Proofs.Access.Scoping
import CatalogSql.Proofs.Sql.WellFormed

/-!
# Composed queries are well-formed

A composed query holds no insertion at all: its predicates, joins and orderings are made of
columns, constants and nested reads, and these are composed queries themselves. So its
statement is told from its text.
-/

namespace CatalogSql

/-- The predicates of a condition nest no read. -/
theorem Condition.isWellFormed_of_predicates {table : TypeInfo} {condition : Condition}
    {name : Option String} {predicates : List Sql.Expression}
    (built : condition.predicates table name = .ok predicates) :
    ∀ predicate ∈ predicates, predicate.IsWellFormed := by
  refine forall_mem_of_forall₂ (Predicate.compares_of_ofEntries built) ?_
  intro entry predicate compares
  rw [Sql.Expression.isWellFormed_iff, compares.columns.2]
  exact List.forall_mem_nil _

namespace Query

/-- The predicates of a step are well-formed if the nested read is. -/
theorem Restricts.isWellFormed {query : Query} {step : Step} {predicates : List Sql.Expression}
    (restricts : query.Restricts step predicates)
    (nested : ∀ field inner, step = .whereIn field inner → inner.select.IsWellFormed) :
    ∀ predicate ∈ predicates, predicate.IsWellFormed := by
  cases restricts with
  | filter _ _ built => exact Condition.isWellFormed_of_predicates built
  | whereIn field inner =>
      refine List.forall_mem_singleton.mpr (.inSelect ?_ (nested field inner rfl))
      exact Sql.Expression.isWellFormed_columnOf _ field
  | _ => exact List.forall_mem_nil _

/-- The condition of a join is well-formed. -/
theorem Step.isWellFormed_of_join? {scope : Scope} {rootName : String} {step : Step}
    {added : (String × String) × Sql.Join} (joins : step.join? scope rootName = some added) :
    added.2.condition.IsWellFormed := by
  cases step with
  | join kind tableName name field joinedField =>
      simp only [Step.join?] at joins
      split at joins
      · cases joins
        exact .comparison .equals (Sql.Expression.isWellFormed_columnOf _ field)
          (Sql.Expression.isWellFormed_columnOf _ joinedField)
      · cases joins
  | _ => cases joins

/-- The key of an ordering is well-formed. -/
theorem Step.isWellFormed_of_ordering? {rootName : String} {step : Step}
    {added : Sql.Expression × Sql.Direction} (orders : step.ordering? rootName = some added) :
    added.1.IsWellFormed := by
  cases step with
  | orderBy field direction =>
      cases orders
      exact Sql.Expression.isWellFormed_columnOf (some rootName) field
  | _ => cases orders

/-- A step adds well-formed parts to a well-formed read. -/
theorem isWellFormed_extend {query : Query} {step : Step} {predicates : List Sql.Expression}
    (wellFormed : query.select.IsWellFormed) (restricts : query.Restricts step predicates)
    (nested : ∀ field inner, step = .whereIn field inner → inner.select.IsWellFormed) :
    (query.extend step predicates).select.IsWellFormed := by
  cases wellFormed with
  | clauses shared columns source joins condition ordering =>
      refine .clauses shared columns source (List.forall_mem_append.mpr ⟨joins, ?_⟩) ?_
        (List.forall_mem_append.mpr ⟨ordering, ?_⟩)
      · intro join mem
        obtain ⟨added, isAdded, rfl⟩ := List.mem_map.mp mem
        exact Step.isWellFormed_of_join? (Option.mem_toList.mp isAdded)
      · refine Sql.Expression.isWellFormed_conjoin_iff.mpr (List.forall_mem_append.mpr ⟨?_, ?_⟩)
        · intro predicate mem
          rw [eq_of_mem_conjuncts mem]
          exact condition
        · exact restricts.isWellFormed nested
      · intro entry mem
        exact Step.isWellFormed_of_ordering? (Option.mem_toList.mp mem)

/-- Every composed query is well-formed. -/
theorem isWellFormed_of_reachable {catalog : Catalog} {query : Query}
    (reachable : Reachable catalog query) : query.select.IsWellFormed := by
  induction reachable with
  | start isOver started =>
      obtain ⟨table, expression, -, isExpression, rfl⟩ :=
        Accessor.queryMany_eq_ok_iff.mp started
      obtain ⟨predicates, built, rfl⟩ := map_eq_ok_iff.mp isExpression
      refine .clauses (List.forall_mem_nil _) ?_ (fun _ _ other => nomatch other)
        (List.forall_mem_nil _) ?_ (List.forall_mem_nil _)
      · intro entry mem
        rw [Sql.Expression.isWellFormed_iff, (columns_ofSelection _ _ _ entry mem).1]
        exact List.forall_mem_nil _
      · exact Sql.Expression.isWellFormed_conjoin_iff.mpr
          (Condition.isWellFormed_of_predicates built)
  | step before nested applied ih innerIh =>
      obtain ⟨predicates, restricts, rfl⟩ := extend_of_apply applied
      exact isWellFormed_extend ih restricts innerIh

end Query

end CatalogSql
