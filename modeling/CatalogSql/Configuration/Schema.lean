import CatalogSql.Configuration.Basic

/-!
# The schema of configuration files

A description of the configuration format, for editors, is written beside every
configuration. It names each setting, its type and its standard value.
-/

namespace CatalogSql.Configuration

/-- Keywords of a schema in the order they are written. -/
abbrev Keywords := List (String × Json)

namespace Schema

/-- The description of a part. -/
def described (text : String) : Keywords := [("description", .string text)]

/-- The value a part has when it is left out. -/
def standard (value : Json) : Keywords := [("default", value)]

/-- The json type of a part. -/
def typed (type : String) : Keywords := [("type", .string type)]

/-- A reference to a definition. -/
def reference (name : String) : Keywords := [("$ref", .string ("#/definitions/" ++ name))]

/-- One of several forms, or all of them. -/
def forms (keyword : String) (alternatives : List Keywords) : Keywords :=
  [(keyword, .array (alternatives.map .object))]

/-- A definition under a description of its own. -/
def referred (name : String) : Keywords := forms "allOf" [reference name]

/-- A natural number of a given width. -/
def natural (format : String) : Keywords :=
  [("format", .string format), ("minimum", .number (.double (Double.ofNat 0)))]

/-- An object with settings, some of them required. -/
def settings (required : List String) (properties : List (String × Keywords)) : Keywords :=
  typed "object" ++
    ((if required.isEmpty then [] else [("required", .strings required)]) ++
      [("properties", .object (properties.map fun entry => (entry.1, .object entry.2)))])

/-- An object whose values have one definition. -/
def mapping (name : String) : Keywords :=
  typed "object" ++ [("additionalProperties", .object (reference name))]

/-- A text that is one of several names. -/
def named (names : List String) : Keywords := typed "string" ++ [("enum", .strings names)]

/-- A time in seconds that may be absent. -/
def seconds (description : String) (value : Option UInt64) : Keywords :=
  described description ++ standard (PoolSettings.secondsJson value) ++
    [("type", .strings ["integer", "null"])] ++ natural "uint64"

/-- The settings of the database connection. -/
def connection : Keywords :=
  described "Database connection settings." ++
    settings ["connectionUri"]
      [("connectionUri",
          described "Connection string for a Postgres-compatible database." ++
            referred "ConnectionUri"),
        ("schema",
          described "The database schema the tables live in." ++
            standard (.string ConnectionSettings.standardSchema) ++ typed "string")]

/-- A secret. -/
def secret : Keywords :=
  described
      "A value that is either written inline or read from an environment variable." ++
    forms "anyOf"
      [typed "string", settings [Secret.variableKey] [(Secret.variableKey, typed "string")]]

/-- The settings of the introspection. -/
def introspection : Keywords :=
  described "Where and how to introspect the schema service." ++
    settings ["endpoint"]
      [("endpoint",
          described "The GraphQL endpoint of the schema service." ++ referred "Secret"),
        ("bearerToken",
          described "Sent as a bearer token with every introspection request." ++
            forms "anyOf" [reference "Secret", typed "null"]),
        ("markerInterface",
          described "Types implementing this interface are persisted tables." ++
            standard (.string IntrospectionSettings.standardMarker) ++ typed "string")]

/-- The settings of the pool. -/
def pool : Keywords :=
  let standardPool := PoolSettings.standard
  described "Settings for the connection pool of table accessors. Times are in seconds." ++
    settings []
      [("maxConnections",
          described "maximum number of pool connections" ++
            standard (.integer standardPool.maxConnections.toNat) ++ typed "integer" ++
            natural "uint32"),
        ("poolTimeout",
          described "timeout for acquiring a connection from the pool" ++
            standard (.integer standardPool.acquireTimeout.toNat) ++ typed "integer" ++
            natural "uint64"),
        ("idleTimeout",
          seconds "idle timeout for releasing a connection from the pool"
            standardPool.idleTimeout),
        ("connectionLifetime",
          seconds "maximum lifetime for an individual connection"
            standardPool.connectionLifetime)]

/-- A type of the catalog. -/
def typeInfo : Keywords :=
  described "Information about an introspected type." ++
    settings ["kind", "name"]
      [("name", typed "string"), ("kind", reference "TypeKind"),
        ("fields", standard (.object []) ++ mapping "SemanticType"),
        ("inputFields", mapping "SemanticType")]

/-- The kinds of types. -/
def typeKind : Keywords :=
  described "Whether an introspected type is persisted as a table." ++
    forms "oneOf"
      [described "A persisted entity, exposed as a CRUD target." ++ named [TypeKind.table.name],
        described
            "Any other introspected type (inputs, enums, payloads). Kept as reference data only." ++
          named [TypeKind.reference.name]]

/-- The semantic types. -/
def semanticType : Keywords :=
  described
      ("The semantic types a field can be classified as.\n\nThe semantic type drives both " ++
        "predicate rendering and projection rendering, so every field has exactly one.") ++
    named (SemanticType.all.map (·.name))

/-- The definitions a configuration refers to, in the order it reaches them. -/
def definitions : List (String × Keywords) :=
  [("DatabaseConnectionSettings", connection),
    ("ConnectionUri",
      described "The connection string of a PostgreSQL database." ++ referred "Secret"),
    ("Secret", secret), ("IntrospectionSettings", introspection), ("PoolSettings", pool),
    ("TypeInfo", typeInfo), ("TypeKind", typeKind), ("SemanticType", semanticType)]

/-- The settings of a configuration. -/
def configuration : Keywords :=
  settings ["connectionSettings", "introspection", "version"]
    [("version", typed "integer" ++ natural "uint32"),
      ("connectionSettings", reference "DatabaseConnectionSettings"),
      ("introspection", reference "IntrospectionSettings"),
      ("poolSettings", reference "PoolSettings"),
      ("catalog", standard (.object []) ++ mapping "TypeInfo")]

/-- The whole schema. -/
def toJson : Json :=
  .object
    ([("$schema", .string "http://json-schema.org/draft-07/schema#"),
        ("title", .string "ParsedConfiguration")] ++
      (described
          ("Initial configuration, just enough to connect to a database and introspect the " ++
            "schema service. The catalog is filled in by `configure`.") ++
        (configuration ++
          [("definitions",
            .object (definitions.map fun entry => (entry.1, .object entry.2)))])))

/-- The text of a schema file. -/
def fileText : String := toJson.indentedText ++ "\n"

end Schema

end CatalogSql.Configuration
