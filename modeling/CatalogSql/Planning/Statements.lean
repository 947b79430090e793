import CatalogSql.Planning.Scope
import CatalogSql.Planning.Projection
import CatalogSql.Planning.Preparation
import CatalogSql.Sql.Plan

/-!
# Planned statements

One read or write of one table. The root table of a read bears its own name, with
which every column is qualified, so that joins can be added; a write names its columns
without a table.
-/

namespace CatalogSql

namespace Scope

/-- The read of a table's rows that satisfy a condition. -/
def select (scope : Scope) (tableName : String) (condition : Condition) (selection : Selection)
    (limit : Option UInt32) : Except RequestError Sql.Select := do
  let table ← scope.lookupTable tableName
  let expression ← condition.expression table (some table.name)
  return { Sql.Select.ofColumns (Projection.ofSelection table selection (some table.name)) with
    source := some (.table (scope.reference table) table.name)
    condition := expression
    limit := limit }

/-- The plan of a read. -/
def planSelect (scope : Scope) (tableName : String) (condition : Condition)
    (selection : Selection) (limit : Option UInt32) : Except RequestError Sql.Plan :=
  (scope.select tableName condition selection limit).map fun read =>
    ⟨tableName, .select read⟩

/-- The expression written to a field. -/
def writtenValue (table : TypeInfo) (field : String) (value : Json) :
    Except RequestError Sql.Expression := do
  let type ← table.requireField field
  let typed ← TypedValue.ofJson table.name field type value
  return typed.written

/-- The columns that set fields are written to, with the expressions written. -/
def writtenValues (table : TypeInfo) :
    List (String × Json) → Except RequestError (List (String × Sql.Expression))
  | [] => .ok []
  | (field, value) :: rest => do
      let expression ← writtenValue table field value
      let following ← writtenValues table rest
      return (field, expression) :: following

/-- The plan of the insertion of one row. -/
def planInsert (scope : Scope) (tableName : String) (payload : Payload)
    (explicitId : Option String) (freshId now : String) : Except RequestError Sql.Plan := do
  let table ← scope.lookupTable tableName
  let row ← payload.prepareInsert table explicitId freshId now
  let written ← writtenValues table row.values
  return ⟨table.name, .insertion
    ⟨scope.schema, table.name, written.map (·.1), written.map (·.2),
      Projection.returning table⟩⟩

/-- The plan of an update of the rows that satisfy a condition. -/
def planUpdate (scope : Scope) (tableName : String) (condition : Condition) (payload : Payload) :
    Except RequestError Sql.Plan := do
  let table ← scope.lookupTable tableName
  let prepared ← payload.prepareUpdate table
  let written ← writtenValues table prepared.values
  if written.isEmpty then .error (.emptyUpdate table.name)
  else
    let expression ← condition.expression table none
    return ⟨table.name, .update
      ⟨scope.schema, table.name, written, expression, Projection.returning table⟩⟩

/-- The plan of the removal of the rows that satisfy a condition. -/
def planDelete (scope : Scope) (tableName : String) (condition : Condition) :
    Except RequestError Sql.Plan := do
  let table ← scope.lookupTable tableName
  let expression ← condition.expression table none
  return ⟨table.name, .deletion ⟨scope.schema, table.name, expression⟩⟩

end Scope

end CatalogSql
