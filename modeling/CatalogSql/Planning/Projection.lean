import CatalogSql.Planning.Predicate

/-!
# Projections

The columns a read selects and a write returns. Selecting all fields formats dates and
casts json columns; selecting named fields takes the columns as they are, without
looking them up.
-/

namespace CatalogSql

/-- The fields a read selects. -/
inductive Selection where
  | all
  | fields (names : List String)
deriving DecidableEq, Repr

namespace Projection

/-- The type json columns are cast to. -/
def jsonType : String := "json"

/-- The expression a field is selected with. -/
def ofField (name : Option String) (field : String × SemanticType) : Sql.Expression :=
  let column := Sql.Expression.columnOf name field.1
  match field.2 with
  | .dateTime => .call .toChar [column, .constant (.literal datePattern)]
  | .json => .cast column jsonType
  | _ => column

/-- The select list of all fields with a column. -/
def ofTable (table : TypeInfo) (name : Option String) : List (String × Sql.Expression) :=
  table.storableFields.map fun field => (field.1, ofField name field)

/-- The select list of a selection. -/
def ofSelection (table : TypeInfo) (selection : Selection) (name : Option String) :
    List (String × Sql.Expression) :=
  match selection with
  | .all => ofTable table name
  | .fields names => names.map fun field => (field, .columnOf name field)

/-- The names of the columns a write returns. -/
def returnedColumns (table : TypeInfo) : List String := table.storableFields.map (·.1)

/-- The columns a write returns, unformatted. -/
def returning (table : TypeInfo) : List (String × Sql.Expression) :=
  (returnedColumns table).map fun field => (field, .columnOf none field)

end Projection

end CatalogSql
