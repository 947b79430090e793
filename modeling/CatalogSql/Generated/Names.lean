import CatalogSql.Catalog.Basic
import CatalogSql.Generated.Identifier
import CatalogSql.Text.Words

/-!
# Generated names

The identifiers that a generated module declares for the tables of a catalog and for
their fields. Names that differ in the catalog may have the same spelling as
identifiers; in each scope later ones are numbered.
-/

namespace CatalogSql

/-- How names are spelled as identifiers: in capital letters, in small letters, and with
capital first letters. Any texts will do, since characters that no identifier holds are
replaced. -/
structure Spelling where
  capitals : String → List Char
  snake : String → List Char
  pascal : String → List Char

namespace Spelling

/-- Words are told apart by letter case, digits and delimiters. -/
def standard : Spelling := ⟨Text.capitals, Text.snake, Text.pascal⟩

variable (spelling : Spelling) (name : String)

/-- The constant for a name: `createdAt` becomes `CREATED_AT`. -/
def constant : Identifier := .ofText "FIELD_" (spelling.capitals name)

/-- The module or member for a name: `BlogPost` becomes `blog_post`. -/
def member : Identifier := .ofText "field_" (spelling.snake name)

/-- The struct for a name: `blog_post` becomes `BlogPost`. -/
def record : Identifier := .ofText "Type_" (spelling.pascal name)

end Spelling

/-- A stored field of a row struct. -/
structure Member where
  field : String
  type : SemanticType
  identifier : Identifier
deriving DecidableEq, Repr

/-- The identifiers for a table: the constant that holds its name, the module with the
names of its fields, its row struct and accessor, a constant for every field and a
member for every stored one. -/
structure TableNames where
  table : TypeInfo
  constant : Identifier
  fieldModule : Identifier
  record : Identifier
  fieldConstants : List (String × Identifier)
  members : List Member
deriving DecidableEq

namespace TypeInfo

/-- The constants for the fields of a type. -/
def fieldConstants (type : TypeInfo) (spelling : Spelling) : List (String × Identifier) :=
  type.fields.keys.zip (Identifier.distinct (type.fields.keys.map spelling.constant))

/-- The members for the stored fields of a type. -/
def members (type : TypeInfo) (spelling : Spelling) : List Member :=
  List.zipWith (fun field identifier => ⟨field.1, field.2, identifier⟩) type.storableFields
    (Identifier.distinct (type.storableFields.map fun field => spelling.member field.1))

end TypeInfo

namespace Catalog

/-- The identifiers for the tables of a catalog, made distinct. -/
def tableIdentifiers (catalog : Catalog) (identifier : String → Identifier) : List Identifier :=
  Identifier.distinct (catalog.tables.map fun table => identifier table.name)

/-- The names declared in a spelling for the tables of a catalog, in its order. -/
def tableNamesIn (catalog : Catalog) (spelling : Spelling) : List TableNames :=
  List.zipWith (fun table names =>
      ⟨table, names.1, names.2.1, names.2.2, table.fieldConstants spelling,
        table.members spelling⟩)
    catalog.tables
    ((catalog.tableIdentifiers spelling.constant).zip
      ((catalog.tableIdentifiers spelling.member).zip
        (catalog.tableIdentifiers spelling.record)))

/-- The names declared for the tables of a catalog. -/
def tableNames (catalog : Catalog) : List TableNames := catalog.tableNamesIn .standard

end Catalog

end CatalogSql
