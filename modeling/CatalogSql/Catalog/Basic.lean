import CatalogSql.Catalog.SemanticType
import CatalogSql.Keyed.Ordered
import CatalogSql.Keyed.Sorted

/-!
# Catalogs

A catalog holds every introspected type under a name, in ascending order of the
names. Tables can be read and written; other types are kept for reference. The name a
type is stored under may differ from the name it carries: looking it up uses the
first, statements use the second.
-/

namespace CatalogSql

/-- Whether a type is persisted. -/
inductive TypeKind where
  | table
  | reference
deriving DecidableEq, Repr, Inhabited

namespace TypeKind

/-- The name of a kind in configuration files. -/
def name : TypeKind → String
  | .table => "table"
  | .reference => "reference"

end TypeKind

/-- The fields of a type in the order of their declaration. -/
abbrev Fields := OrderedMap SemanticType

/-- An introspected type. -/
structure TypeInfo where
  name : String
  kind : TypeKind
  fields : Fields
  inputFields : Fields
deriving DecidableEq

/-- A caller named a table or a field that does not exist. -/
inductive LookupError where
  | unknownTable (table : String)
  | unknownField (table field : String)
deriving DecidableEq, Repr

namespace LookupError

/-- The words for a failed lookup. -/
def message : LookupError → String
  | .unknownTable table => "unknown table '" ++ table ++ "'"
  | .unknownField table field => "unknown field '" ++ field ++ "' in table '" ++ table ++ "'"

/-- The name by which programs tell errors apart. -/
def kind : LookupError → String
  | .unknownTable _ => "UnknownTable"
  | .unknownField _ _ => "UnknownField"

end LookupError

namespace TypeInfo

/-- A persisted type with its fields in order. -/
def table (name : String) (fields : List (String × SemanticType)) : TypeInfo :=
  { name, kind := .table, fields := .ofList fields, inputFields := .empty }

/-- Whether the type is persisted. -/
def isTable (type : TypeInfo) : Bool := type.kind == .table

/-- The semantic type of a declared field. -/
def fieldType? (type : TypeInfo) (field : String) : Option SemanticType := type.fields.get? field

/-- The semantic type of a field that a caller named. -/
def lookupField (type : TypeInfo) (field : String) : Except LookupError SemanticType :=
  match type.fieldType? field with
  | some found => .ok found
  | none => .error (.unknownField type.name field)

/-- The fields with a column, in the order of their declaration. -/
def storableFields (type : TypeInfo) : List (String × SemanticType) :=
  type.fields.entries.filter fun field => field.2.isStorable

end TypeInfo

/-- All introspected types by name. -/
structure Catalog where
  types : SortedMap TypeInfo
deriving DecidableEq

namespace Catalog

/-- The catalog without types. -/
def empty : Catalog := ⟨SortedMap.empty⟩

instance : Inhabited Catalog := ⟨empty⟩

/-- The catalog of types under their own names; the last of several types of one name
counts. -/
def ofTypes (types : List TypeInfo) : Catalog :=
  ⟨SortedMap.ofList (types.map fun type => (type.name, type))⟩

/-- The type stored under a name. -/
def lookupType? (catalog : Catalog) (name : String) : Option TypeInfo := catalog.types.get? name

/-- The table stored under a name. -/
def lookupTable (catalog : Catalog) (name : String) : Except LookupError TypeInfo :=
  match catalog.lookupType? name with
  | some type => if type.isTable then .ok type else .error (.unknownTable name)
  | none => .error (.unknownTable name)

/-- All types in ascending order of the names they are stored under. -/
def allTypes (catalog : Catalog) : List TypeInfo := catalog.types.values

/-- The persisted types, in the same order. -/
def tables (catalog : Catalog) : List TypeInfo := catalog.allTypes.filter (·.isTable)

/-- The number of types. -/
def size (catalog : Catalog) : Nat := catalog.types.size

/-- Whether every type is stored under the name it carries. -/
def KeyedByName (catalog : Catalog) : Prop :=
  ∀ entry ∈ catalog.types.entries, entry.1 = entry.2.name

end Catalog

end CatalogSql
