import CatalogSql.Access.Error
import CatalogSql.Planning.Statements

/-!
# Composed queries

A query reads one root table and is extended step by step: joins, further conditions,
nested queries, orderings and paging. The root table bears its own name in it; a joined
table bears its own name or another one given to it. A step that fails gives no query.
-/

namespace CatalogSql

/-- A read that is being composed, with the names given to joined tables and the names
of the tables behind them. -/
structure Query where
  scope : Scope
  table : String
  joined : List (String × String)
  select : Sql.Select

namespace Query

/-- Looks up the root table, under the name it carries. -/
def root (query : Query) : Except AccessError TypeInfo :=
  (query.scope.lookupTable query.table).mapError .request

/-- Looks up a field that a step names. -/
def requireField (table : TypeInfo) (field : String) : Except AccessError Unit :=
  match table.requireField field with
  | .ok _ => .ok ()
  | .error error => .error (.request error)

/-- The table behind a name of the query. -/
def tableOf? (query : Query) (name : String) : Option String :=
  if name = query.table then some query.table else Keyed.lookup? name query.joined

/-- Adds predicates to the condition, which may still be the constant true. -/
def addPredicates (query : Query) (predicates : List Sql.Expression) : Query :=
  let current : List Sql.Expression :=
    match query.select.condition with
    | .constant (.boolean true) => []
    | condition => [condition]
  { query with
    select := { query.select with condition := .conjoin (current ++ predicates) } }

/-- Joins a table under a name, where a field of the root table equals a field of it. -/
def join (query : Query) (kind : Sql.JoinKind) (tableName name field joinedField : String) :
    Except AccessError Query := do
  if (query.tableOf? name).isSome then .error (.duplicateJoin name)
  else
    let root ← query.root
    let table ← (query.scope.lookupTable tableName).mapError .request
    requireField root field
    requireField table joinedField
    let condition : Sql.Expression :=
      .comparison (.columnOf (some root.name) field) .equals (.columnOf (some name) joinedField)
    return { query with
      joined := query.joined ++ [(name, table.name)]
      select := { query.select with
        joins := query.select.joins ++ [⟨kind, query.scope.reference table, name, condition⟩] } }

/-- Adds a condition on the root table or on a joined one. -/
def filter (query : Query) (name : String) (condition : Condition) : Except AccessError Query :=
  match query.tableOf? name with
  | none => .error (.unknownJoin name)
  | some tableName => do
      let table ← (query.scope.lookupTable tableName).mapError .request
      let predicates ← (condition.predicates table (some name)).mapError .request
      return query.addPredicates predicates

/-- Keeps the rows whose field is among the rows of another query. -/
def whereIn (query : Query) (field : String) (inner : Query) : Except AccessError Query := do
  let root ← query.root
  requireField root field
  return query.addPredicates [.inSelect (.columnOf (some query.table) field) inner.select]

/-- Orders by a field of the root table, after the orderings given before. -/
def orderBy (query : Query) (field : String) (direction : Sql.Direction) :
    Except AccessError Query := do
  let root ← query.root
  requireField root field
  return { query with
    select := { query.select with
      ordering :=
        query.select.ordering ++ [(.columnOf (some query.table) field, direction)] } }

/-- Keeps at most a number of rows. -/
def limit (query : Query) (count : UInt32) : Query :=
  { query with select := { query.select with limit := some count } }

/-- Skips a number of rows. -/
def offset (query : Query) (count : UInt32) : Query :=
  { query with select := { query.select with offset := some count } }

/-- The text of the query itself. -/
def text (query : Query) : Sql.Prepared := .ofPieces query.select.pieces

/-- The plan that runs the query. -/
def plan (query : Query) : Sql.Plan := ⟨query.table, .select query.select⟩

end Query

end CatalogSql
