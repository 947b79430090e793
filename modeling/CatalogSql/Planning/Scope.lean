import CatalogSql.Request.Error
import CatalogSql.Sql.Statement

/-!
# Scopes

Requests are planned over a catalog and the schema its tables live in.
-/

namespace CatalogSql

/-- A catalog and the database schema of its tables. -/
structure Scope where
  catalog : Catalog
  schema : String

namespace Scope

/-- The table stored under a name. -/
def lookupTable (scope : Scope) (name : String) : Except RequestError TypeInfo :=
  (scope.catalog.lookupTable name).mapError .lookup

/-- A reference to a table of the scope's schema. -/
def reference (scope : Scope) (table : TypeInfo) : Sql.TableReference :=
  .stored scope.schema table.name

end Scope

namespace TypeInfo

/-- The semantic type of a field that a request names. -/
def requireField (table : TypeInfo) (field : String) : Except RequestError SemanticType :=
  (table.lookupField field).mapError .lookup

end TypeInfo

end CatalogSql
