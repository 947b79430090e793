import CatalogSql.Generated.Names
import CatalogSql.Generated.Token

/-!
# Generated modules

The source of a module with typed access to the tables of a catalog: constants for
names and types, a function that builds the catalog, a row struct for every table and
an accessor for every table. Paths are absolute, because a table may be named like
anything that is in scope.
-/

namespace CatalogSql

namespace Generated

open Token (code inRound inSquare inCurly separated)

/-- The line a generated file starts with. -/
def header : String :=
  "// @generated by schema-bridge from the schema catalog. Do not edit.\n"

/-- An item of the module behind its description. -/
def described (description : String) (item : List Token) : List Token :=
  code "#" ++ (inSquare (code "doc =" ++ [.verbatim description]) ++ item)

/-- A module. -/
def moduleItem (name : Token) (items : List Token) : List Token :=
  code "pub mod" ++ name :: inCurly items

/-- A constant that holds a text. -/
def textConstant (identifier : Identifier) (value : String) : List Token :=
  code "pub const" ++ .name identifier :: (code ": & str =" ++ [.text value, .plain ";"])

/-- A semantic type as a value. -/
def typeValue (type : SemanticType) : List Token :=
  code "SemanticType ::" ++ [.plain (match type with
    | .id => "Id"
    | .string => "String"
    | .number => "Number"
    | .dateTime => "DateTime"
    | .enumeration => "Enum"
    | .boolean => "Boolean"
    | .relation => "Relation"
    | .json => "Json"
    | .unknown => "Unknown")]

/-- Fields as a list of pairs. -/
def fieldList (fields : Fields) : List Token :=
  inSquare (separated (fields.entries.map fun field =>
    inRound (.text field.1 :: .plain "," :: typeValue field.2)))

/-- The names of the tables. -/
def tablesModule (tables : List TableNames) : List Token :=
  described " Table names."
    (moduleItem (.plain "tables")
      (tables.flatMap fun names => textConstant names.constant names.table.name))

/-- The names of the fields. -/
def fieldsModule (tables : List TableNames) : List Token :=
  described " Field names, per table."
    (moduleItem (.plain "fields")
      (tables.flatMap fun names =>
        moduleItem (.name names.fieldModule)
          (names.fieldConstants.flatMap fun field => textConstant field.2 field.1)))

/-- The types of the fields. -/
def fieldTypesModule (tables : List TableNames) : List Token :=
  described " Semantic field types, per table."
    (moduleItem (.plain "field_types")
      (code ("use :: schema_bridge :: __reexports :: query_engine_metadata :: metadata " ++
          ":: SemanticType ;") ++
        tables.flatMap fun names =>
          code "pub const" ++ .name names.constant ::
            (code ": & [ ( & str , SemanticType ) ] = &" ++ fieldList names.table.fields ++
              code ";")))

/-- A kind as a value. -/
def kindValue (kind : TypeKind) : List Token :=
  code "TypeKind ::" ++ [.plain (match kind with
    | .table => "Table"
    | .reference => "Reference")]

/-- A type as a value. -/
def typeInfoValue (type : TypeInfo) : List Token :=
  code "TypeInfo" ++
    inCurly (code "name :" ++ .text type.name :: (code ". to_string ( ) , kind :" ++
      (kindValue type.kind ++ (code ", fields : fields" ++
        (inRound (code "&" ++ fieldList type.fields) ++ (code ", input_fields : fields" ++
          (inRound (code "&" ++ fieldList type.inputFields) ++ code ",")))))))

/-- The function that collects a list of pairs. -/
def fieldsFunction : List Token :=
  code "fn fields ( fields : & [ ( & str , SemanticType ) ] ) -> FieldsInfo" ++
    inCurly (code ("fields . iter ( ) . map ( | ( name , semantic_type ) | " ++
      "( ( * name ) . to_string ( ) , * semantic_type ) ) . collect ( )"))

/-- The function that builds the catalog. -/
def catalogFunction (catalog : Catalog) : List Token :=
  described " The catalog this module was generated from."
    (code ("pub fn catalog ( ) -> :: schema_bridge :: __reexports " ++
        ":: query_engine_metadata :: metadata :: Catalog") ++
      inCurly (code ("use :: schema_bridge :: __reexports :: query_engine_metadata " ++
          ":: metadata ::") ++
        (inCurly (code "Catalog , FieldsInfo , SemanticType , TypeInfo , TypeKind ,") ++
          (code ";" ++ (fieldsFunction ++ (code "Catalog :: new" ++
            inRound (inSquare (separated (catalog.allTypes.map typeInfoValue)))))))))

/-- The type of a member's values. Dates are returned as formatted texts. -/
def memberType (type : SemanticType) : List Token :=
  code (match type with
    | .number => "f64"
    | .boolean => "bool"
    | .json | .relation | .unknown => ":: schema_bridge :: __reexports :: serde_json :: Value"
    | .id | .string | .dateTime | .enumeration => ":: std :: string :: String")

/-- A member of a row struct. It may be absent, so the struct reads a part of a row and
writes a part of a payload. -/
def memberItem (member : Member) : List Token :=
  code "# [ serde" ++
    (inRound (code "rename =" ++ .text member.field ::
        (code ", default , skip_serializing_if =" ++
          [.text "::core::option::Option::is_none"])) ++
      (code "] pub" ++ .name member.identifier ::
        (code ": :: core :: option :: Option <" ++ (memberType member.type ++ code "> ,"))))

/-- A row struct. -/
def rowStruct (names : TableNames) : List Token :=
  code ("# [ derive ( Debug , Clone , Default , PartialEq , " ++
      ":: schema_bridge :: __reexports :: serde :: Serialize , " ++
      ":: schema_bridge :: __reexports :: serde :: Deserialize , ) ] # [ serde") ++
    (inRound (code "crate =" ++ [.text "::schema_bridge::__reexports::serde"]) ++
      (code "] pub struct" ++ .name names.record :: inCurly (names.members.flatMap memberItem)))

/-- The row structs. -/
def rowsModule (tables : List TableNames) : List Token :=
  described " Rows as they are returned, and payloads as they are written."
    (moduleItem (.plain "rows") (tables.flatMap rowStruct))

/-- The transaction argument of an operation. -/
def transactionArgument : List Token :=
  code ("tx : :: core :: option :: Option < & mut :: schema_bridge :: __reexports " ++
    ":: sqlx :: postgres :: PgConnection > ,")

/-- The condition argument of an operation. -/
def conditionArgument : List Token := code "condition : & :: schema_bridge :: Condition ,"

/-- The selection argument of an operation. -/
def selectionArgument : List Token := code "selection : & :: schema_bridge :: Selection ,"

/-- The path of a table's row struct. -/
def rowPath (names : TableNames) : List Token :=
  code "super :: rows ::" ++ [.name names.record]

/-- The path of the constant that holds a table's name. -/
def tablePath (names : TableNames) : List Token :=
  code "super :: tables ::" ++ [.name names.constant]

/-- The type of an operation's result. -/
def resultOf (value : List Token) : List Token :=
  code "-> :: core :: result :: Result <" ++ (value ++ code ", :: schema_bridge :: Error >")

/-- The type of a row that may be missing. -/
def optionalRow (names : TableNames) : List Token :=
  code ":: core :: option :: Option <" ++ (rowPath names ++ code ">")

/-- Decodes the row in scope. -/
def decodedRow (names : TableNames) : List Token :=
  code ":: schema_bridge :: accessor :: decode_row" ++
    inRound (tablePath names ++ code ", row")

/-- Decodes the row that a call may have returned. -/
def decodedOptionalRow (names : TableNames) : List Token :=
  code ". await ? . map" ++
    (inRound (code "| row |" ++ decodedRow names) ++ code ". transpose ( )")

/-- Encodes the payload under a name. -/
def encodedPayload (names : TableNames) (payload : String) : List Token :=
  code "let data = :: schema_bridge :: accessor :: encode_data" ++
    (inRound (tablePath names ++ [.plain ",", .plain payload]) ++ code "? ;")

/-- The function that makes an accessor. -/
def newFunction (names : TableNames) : List Token :=
  code "pub fn new ( bridge : & 'a :: schema_bridge :: SchemaBridge , )" ++
    (resultOf (code "Self") ++
      inCurly (code "bridge . table" ++ (inRound (tablePath names) ++ code ". map ( Self )")))

/-- The function that gives the untyped accessor. -/
def accessorFunction : List Token :=
  code "pub fn accessor ( & self ) -> & :: schema_bridge :: TableAccessor < 'a >" ++
    inCurly (code "& self . 0")

/-- The operation that reads one row. -/
def queryOneFunction (names : TableNames) : List Token :=
  code "pub async fn query_one" ++
    (inRound (code "& self ," ++
        (conditionArgument ++ (selectionArgument ++ transactionArgument))) ++
      (resultOf (optionalRow names) ++
        inCurly (code "self . 0 . query_one ( condition , selection , tx )" ++
          decodedOptionalRow names)))

/-- The operation that starts a query. -/
def queryManyFunction : List Token :=
  code "pub fn query_many" ++
    (inRound (code "& self ," ++ (conditionArgument ++ selectionArgument)) ++
      (resultOf (code ":: schema_bridge :: Query") ++
        inCurly (code "self . 0 . query_many ( condition , selection )")))

/-- The operation that inserts a row. -/
def insertFunction (names : TableNames) : List Token :=
  code "pub async fn insert" ++
    (inRound (code "& self , input : &" ++ (rowPath names ++ (code "," ++ (transactionArgument ++
        code "explicit_id : :: core :: option :: Option < & str > ,")))) ++
      (resultOf (rowPath names) ++
        inCurly (encodedPayload names "input" ++
          (code "let row = self . 0 . insert ( & data , tx , explicit_id ) . await ? ;" ++
            decodedRow names))))

/-- The operation that updates one row. -/
def updateOneFunction (names : TableNames) : List Token :=
  code "pub async fn update_one" ++
    (inRound (code "& self ," ++ (conditionArgument ++ (code "data : &" ++ (rowPath names ++
        (code "," ++ transactionArgument))))) ++
      (resultOf (optionalRow names) ++
        inCurly (encodedPayload names "data" ++
          (code "self . 0 . update_one ( condition , & data , tx )" ++
            decodedOptionalRow names))))

/-- The operation that deletes rows. -/
def deleteFunction : List Token :=
  code "pub async fn delete" ++
    (inRound (code "& self ," ++ (conditionArgument ++ transactionArgument)) ++
      (resultOf (code "u64") ++
        inCurly (code "self . 0 . delete ( condition , tx ) . await")))

/-- The accessor of a table. -/
def accessorItem (names : TableNames) : List Token :=
  code "#" ++ (inSquare (code "doc =" ++
      [.text (" CRUD operations on \x60" ++ names.table.name ++ "\x60.")]) ++
    (code "# [ derive ( Debug , Clone , Copy ) ] pub struct" ++ .name names.record ::
      (code "< 'a > ( :: schema_bridge :: TableAccessor < 'a > ) ; impl < 'a >" ++
        .name names.record :: (code "< 'a >" ++
          inCurly (newFunction names ++ (accessorFunction ++ (queryOneFunction names ++
            (queryManyFunction ++ (insertFunction names ++ (updateOneFunction names ++
              deleteFunction))))))))))

/-- The accessors. -/
def accessorsModule (tables : List TableNames) : List Token :=
  described " Typed accessors, one per table."
    (moduleItem (.plain "accessors") (tables.flatMap accessorItem))

end Generated

namespace Catalog

/-- The tokens of the module generated for a catalog, with names in a spelling. -/
def moduleTokensIn (catalog : Catalog) (spelling : Spelling) : List Token :=
  let tables := catalog.tableNamesIn spelling
  Generated.tablesModule tables ++ (Generated.fieldsModule tables ++
    (Generated.fieldTypesModule tables ++ (Generated.catalogFunction catalog ++
      (Generated.rowsModule tables ++ Generated.accessorsModule tables))))

/-- The text of the module generated for a catalog, with names in a spelling. -/
def moduleTextIn (catalog : Catalog) (spelling : Spelling) : String :=
  Generated.header ++ Token.textOf (catalog.moduleTokensIn spelling) ++ "\n"

/-- The text of the module generated for a catalog. -/
def moduleText (catalog : Catalog) : String := catalog.moduleTextIn .standard

end Catalog

end CatalogSql
