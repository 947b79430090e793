import CatalogSql.Access.Accessor
import CatalogSql.Proofs.Planning.Statements

/-!
# What the steps of a query do

Each step that succeeds changes one clause of the query, and checks the fields it names
against the tables they belong to.
-/

namespace CatalogSql

/-- A query begins as the read of the table that is stored under the name of the accessor. -/
theorem Accessor.queryMany_eq_ok_iff {accessor : Accessor} {condition : Condition}
    {selection : Selection} {query : Query} :
    accessor.queryMany condition selection = .ok query ↔
      ∃ table expression, accessor.scope.lookupTable accessor.name = .ok table ∧
        condition.expression table (some table.name) = .ok expression ∧
        query = ⟨accessor.scope, accessor.name, [],
          accessor.scope.readOf table selection expression none⟩ := by
  have ofRead : accessor.queryMany condition selection = .ok query ↔
      ∃ read, accessor.scope.select accessor.name condition selection none = .ok read ∧
        query = ⟨accessor.scope, accessor.name, [], read⟩ := by
    unfold queryMany
    cases accessor.scope.select accessor.name condition selection none with
    | error error => simp
    | ok read => simp [Accessor.name, eq_comm]
  rw [ofRead]
  simp only [Scope.select_eq_ok_iff]
  constructor
  · rintro ⟨_, ⟨table, expression, found, built, rfl⟩, rfl⟩
    exact ⟨table, expression, found, built, rfl⟩
  · rintro ⟨table, expression, found, built, rfl⟩
    exact ⟨_, ⟨table, expression, found, built, rfl⟩, rfl⟩

namespace Query

variable {query result : Query}

/-- A required field is one the table declares. -/
theorem requireField_eq_ok_iff {table : TypeInfo} {field : String} {checked : Unit} :
    requireField table field = .ok checked ↔ ∃ type, table.fieldType? field = some type := by
  unfold requireField
  cases found : table.requireField field with
  | ok type =>
      have declared := TypeInfo.requireField_eq_ok_iff.mp found
      simp [declared]
  | error error =>
      constructor
      · rintro ⟨⟩
      · rintro ⟨type, declared⟩
        cases found.symm.trans (TypeInfo.requireField_eq_ok_iff.mpr declared)

/-- The root of a query is the table stored under its name. -/
theorem root_eq_ok_iff {root : TypeInfo} :
    query.root = .ok root ↔ query.scope.catalog.lookupTable query.table = .ok root :=
  mapError_eq_ok_iff.trans mapError_eq_ok_iff

/-- The condition that joins a table to the root table. -/
def joinCondition (root : TypeInfo) (name field joinedField : String) : Sql.Expression :=
  .comparison (.columnOf (some root.name) field) .equals (.columnOf (some name) joinedField)

/-- When a join is accepted, and what it leaves. -/
theorem join_eq_ok_iff {kind : Sql.JoinKind} {tableName name field joinedField : String} :
    query.join kind tableName name field joinedField = .ok result ↔
      ∃ root table, query.tableOf? name = none ∧ query.root = .ok root ∧
        query.scope.lookupTable tableName = .ok table ∧
        (∃ type, root.fieldType? field = some type) ∧
        (∃ type, table.fieldType? joinedField = some type) ∧
        result = { query with
          joined := query.joined ++ [(name, table.name)]
          select := { query.select with
            joins := query.select.joins ++
              [⟨kind, query.scope.reference table, name,
                joinCondition root name field joinedField⟩] } } := by
  unfold join
  cases isNamed : query.tableOf? name with
  | some tableName => simp
  | none =>
      simp only [Option.isSome_none, Bool.false_eq_true, if_false, bind_eq_ok_iff,
        mapError_eq_ok_iff, requireField_eq_ok_iff, true_and]
      constructor
      · rintro ⟨root, isRoot, table, found, _, declared, _, joined, same⟩
        cases same
        exact ⟨root, table, isRoot, found, declared, joined, rfl⟩
      · rintro ⟨root, table, isRoot, found, declared, joined, rfl⟩
        exact ⟨root, isRoot, table, found, (), declared, (), joined, rfl⟩

/-- The predicates a condition is the conjunction of, as far as steps tell. -/
def conjuncts : Sql.Expression → List Sql.Expression
  | .constant (.boolean true) => []
  | condition => [condition]

/-- A condition that is not `TRUE` is its own only conjunct. -/
theorem conjuncts_of_ne {condition : Sql.Expression} (notAlways : condition ≠ .always) :
    conjuncts condition = [condition] := by
  unfold conjuncts
  split
  · exact absurd rfl notAlways
  · rfl

/-- The conjuncts of a condition conjoin to it. -/
theorem conjoin_conjuncts (condition : Sql.Expression) :
    Sql.Expression.conjoin (conjuncts condition) = condition := by
  by_cases isAlways : condition = .always
  · rw [isAlways]
    rfl
  · rw [conjuncts_of_ne isAlways]
    rfl

/-- Added predicates stand behind the conjuncts that are there. -/
theorem addPredicates_eq (query : Query) (predicates : List Sql.Expression) :
    query.addPredicates predicates = { query with
      select := { query.select with
        condition := .conjoin (conjuncts query.select.condition ++ predicates) } } := rfl

/-- When a filter is accepted, and what it leaves. -/
theorem filter_eq_ok_iff {name : String} {condition : Condition} :
    query.filter name condition = .ok result ↔
      ∃ tableName table predicates, query.tableOf? name = some tableName ∧
        query.scope.lookupTable tableName = .ok table ∧
        condition.predicates table (some name) = .ok predicates ∧
        result = query.addPredicates predicates := by
  unfold filter
  cases isNamed : query.tableOf? name with
  | none => simp
  | some tableName =>
      simp only [bind_eq_ok_iff, mapError_eq_ok_iff, Option.some.injEq]
      constructor
      · rintro ⟨table, found, predicates, built, same⟩
        cases same
        exact ⟨tableName, table, predicates, rfl, found, built, rfl⟩
      · rintro ⟨_, table, predicates, rfl, found, built, rfl⟩
        exact ⟨table, found, predicates, built, rfl⟩

/-- When a membership test is accepted, and what it leaves. -/
theorem whereIn_eq_ok_iff {field : String} {inner : Query} :
    query.whereIn field inner = .ok result ↔
      ∃ root, query.root = .ok root ∧ (∃ type, root.fieldType? field = some type) ∧
        result =
          query.addPredicates [.inSelect (.columnOf (some query.table) field) inner.select] := by
  unfold whereIn
  simp only [bind_eq_ok_iff, requireField_eq_ok_iff]
  constructor
  · rintro ⟨root, isRoot, _, declared, same⟩
    cases same
    exact ⟨root, isRoot, declared, rfl⟩
  · rintro ⟨root, isRoot, declared, rfl⟩
    exact ⟨root, isRoot, (), declared, rfl⟩

/-- When an ordering is accepted, and what it leaves. -/
theorem orderBy_eq_ok_iff {field : String} {direction : Sql.Direction} :
    query.orderBy field direction = .ok result ↔
      ∃ root, query.root = .ok root ∧ (∃ type, root.fieldType? field = some type) ∧
        result = { query with
          select := { query.select with
            ordering :=
              query.select.ordering ++ [(.columnOf (some query.table) field, direction)] } } := by
  unfold orderBy
  simp only [bind_eq_ok_iff, requireField_eq_ok_iff]
  constructor
  · rintro ⟨root, isRoot, _, declared, same⟩
    cases same
    exact ⟨root, isRoot, declared, rfl⟩
  · rintro ⟨root, isRoot, declared, rfl⟩
    exact ⟨root, isRoot, (), declared, rfl⟩

end Query

end CatalogSql
