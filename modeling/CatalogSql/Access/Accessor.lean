import CatalogSql.Access.Query

/-!
# Accessors

The operations on one table of a catalog. An accessor is found by the name the table is
stored under and plans with the name the table carries.
-/

namespace CatalogSql

/-- A table of a scope. -/
structure Accessor where
  scope : Scope
  table : TypeInfo

namespace Accessor

/-- The accessor of the table stored under a name. -/
def find (scope : Scope) (name : String) : Except AccessError Accessor :=
  match scope.lookupTable name with
  | .ok table => .ok ⟨scope, table⟩
  | .error error => .error (.request error)

/-- The name of the table. -/
def name (accessor : Accessor) : String := accessor.table.name

/-- The columns a write returns. -/
def returnedColumns (accessor : Accessor) : List String :=
  Projection.returnedColumns accessor.table

/-- Plans the read of the first row that satisfies a condition. -/
def planQueryOne (accessor : Accessor) (condition : Condition) (selection : Selection) :
    Except AccessError Sql.Plan :=
  (accessor.scope.planSelect accessor.name condition selection (some 1)).mapError .request

/-- Plans the insertion of a row. -/
def planInsert (accessor : Accessor) (payload : Payload) (explicitId : Option String)
    (freshId now : String) : Except AccessError Sql.Plan :=
  (accessor.scope.planInsert accessor.name payload explicitId freshId now).mapError .request

/-- Plans the update of the rows that satisfy a condition. -/
def planUpdate (accessor : Accessor) (condition : Condition) (payload : Payload) :
    Except AccessError Sql.Plan :=
  (accessor.scope.planUpdate accessor.name condition payload).mapError .request

/-- Plans the removal of the rows that satisfy a condition. -/
def planDelete (accessor : Accessor) (condition : Condition) : Except AccessError Sql.Plan :=
  (accessor.scope.planDelete accessor.name condition).mapError .request

/-- Starts a query for the rows that satisfy a condition. -/
def queryMany (accessor : Accessor) (condition : Condition) (selection : Selection) :
    Except AccessError Query :=
  match accessor.scope.select accessor.name condition selection none with
  | .ok select => .ok ⟨accessor.scope, accessor.table.name, [], select⟩
  | .error error => .error (.request error)

/-- Whether an insertion takes a fresh identifier, even when it then fails: the table is
looked up again, by the name it carries, before an identifier is drawn. -/
def takesFreshId (accessor : Accessor) (explicitId : Option String) : Bool :=
  match accessor.scope.lookupTable accessor.name with
  | .ok table => Payload.takesFreshId table explicitId
  | .error _ => false

end Accessor

end CatalogSql
