import CatalogSql.Catalog.Coding
import CatalogSql.Configuration.Secret
import CatalogSql.Configuration.Pool

/-!
# Configurations

What is kept in a configuration file: how to reach the database and the schema service,
the settings of the pool, and the catalog of the last introspection. Pool settings are
written when they differ from the standard ones.
-/

namespace CatalogSql

open Json (Decoder)

/-- How the database is reached. -/
structure ConnectionSettings where
  uri : Secret
  schema : String
deriving DecidableEq, Repr

namespace ConnectionSettings

/-- The schema of a configuration that names none. -/
def standardSchema : String := "public"

/-- What has been read of the settings. -/
structure Draft where
  uri : Option Secret
  schema : Option String

/-- How settings are read. -/
def record : Decoder.Record Draft ConnectionSettings where
  name := "DatabaseConnectionSettings"
  fields :=
    [.of "connectionUri" (·.uri) (fun draft value => { draft with uri := some value })
        Secret.decoder,
      (Decoder.Field.of "schema" (·.schema) (fun draft value => { draft with schema := some value })
        Decoder.string).defaulted]
  draft := ⟨none, none⟩
  complete draft := do
    let uri ← Decoder.required "connectionUri" draft.uri
    return ⟨uri, draft.schema.getD standardSchema⟩

/-- The written form. -/
def toJson (settings : ConnectionSettings) : Json :=
  .object [("connectionUri", settings.uri.toJson), ("schema", .string settings.schema)]

end ConnectionSettings

/-- How the schema service is reached, and the interface that marks tables. -/
structure IntrospectionSettings where
  endpoint : Secret
  bearerToken : Option Secret
  markerInterface : String
deriving DecidableEq, Repr

namespace IntrospectionSettings

/-- The interface that marks tables in a configuration that names none. -/
def standardMarker : String := "Node"

/-- What has been read of the settings. -/
structure Draft where
  endpoint : Option Secret
  bearerToken : Option (Option Secret)
  markerInterface : Option String

/-- How settings are read. -/
def record : Decoder.Record Draft IntrospectionSettings where
  name := "IntrospectionSettings"
  fields :=
    [.of "endpoint" (·.endpoint) (fun draft value => { draft with endpoint := some value })
        Secret.decoder,
      (Decoder.Field.of "bearerToken" (·.bearerToken)
        (fun draft value => { draft with bearerToken := some value })
        (Decoder.option Secret.decoder)).defaulted,
      (Decoder.Field.of "markerInterface" (·.markerInterface)
        (fun draft value => { draft with markerInterface := some value })
        Decoder.string).defaulted]
  draft := ⟨none, none, none⟩
  complete draft := do
    let endpoint ← Decoder.required "endpoint" draft.endpoint
    return ⟨endpoint, draft.bearerToken.getD none, draft.markerInterface.getD standardMarker⟩

/-- The written form. An absent token is not written. -/
def toJson (settings : IntrospectionSettings) : Json :=
  .object
    (("endpoint", settings.endpoint.toJson) ::
      ((settings.bearerToken.map fun token => ("bearerToken", token.toJson)).toList ++
        [("markerInterface", .string settings.markerInterface)]))

end IntrospectionSettings

/-- The content of a configuration file. -/
structure Configuration where
  version : UInt32
  connection : ConnectionSettings
  introspection : IntrospectionSettings
  pool : PoolSettings
  catalog : Catalog
deriving DecidableEq

namespace Configuration

/-- The only version of the format. -/
def currentVersion : UInt32 := 1

/-- A configuration before the first introspection, with all secrets in variables. -/
def initial : Configuration where
  version := currentVersion
  connection := ⟨.ofVariable "SCHEMA_BRIDGE_DATABASE_URL", ConnectionSettings.standardSchema⟩
  introspection :=
    ⟨.ofVariable "SCHEMA_BRIDGE_INTROSPECTION_ENDPOINT", none,
      IntrospectionSettings.standardMarker⟩
  pool := .standard
  catalog := .empty

/-- What has been read of a configuration. -/
structure Draft where
  version : Option UInt32
  connection : Option ConnectionSettings
  introspection : Option IntrospectionSettings
  pool : Option PoolSettings
  catalog : Option Catalog

/-- How a configuration is read. -/
def record : Decoder.Record Draft Configuration where
  name := "ParsedConfiguration"
  fields :=
    [.of "version" (·.version) (fun draft value => { draft with version := some value })
        PoolSettings.count,
      .of "connectionSettings" (·.connection)
        (fun draft value => { draft with connection := some value })
        ConnectionSettings.record.decoder,
      .of "introspection" (·.introspection)
        (fun draft value => { draft with introspection := some value })
        IntrospectionSettings.record.decoder,
      (Decoder.Field.of "poolSettings" (·.pool)
        (fun draft value => { draft with pool := some value }) PoolSettings.decoder).defaulted,
      (Decoder.Field.of "catalog" (·.catalog)
        (fun draft value => { draft with catalog := some value }) Catalog.decoder).defaulted]
  draft := ⟨none, none, none, none, none⟩
  complete draft := do
    let version ← Decoder.required "version" draft.version
    let connection ← Decoder.required "connectionSettings" draft.connection
    let introspection ← Decoder.required "introspection" draft.introspection
    return ⟨version, connection, introspection, draft.pool.getD .standard,
      draft.catalog.getD .empty⟩

/-- Reads a configuration, whatever its version. -/
def decoder : Decoder Configuration := record.decoder

/-- How the version alone is read. -/
def versionRecord : Decoder.Record (Option UInt32) UInt32 where
  name := "VersionTag"
  fields := [.of "version" id (fun _ value => some value) PoolSettings.count]
  draft := none
  complete draft := Decoder.required "version" draft

/-- The written form. -/
def toJson (configuration : Configuration) : Json :=
  .object
    ([("version", .integer configuration.version.toNat),
        ("connectionSettings", configuration.connection.toJson),
        ("introspection", configuration.introspection.toJson)] ++
      ((if configuration.pool = .standard then []
        else [("poolSettings", configuration.pool.toJson)]) ++
      [("catalog", configuration.catalog.toJson)]))

/-- The text of a configuration file. -/
def fileText (configuration : Configuration) : String :=
  configuration.toJson.indentedText ++ "\n"

end Configuration

/-- A configuration whose secrets have been resolved, ready for use. -/
structure RuntimeConfiguration where
  catalog : Catalog
  schema : String
  connectionUri : String
  pool : PoolSettings

/-- A secret of a configuration could not be resolved. -/
structure UnresolvedSecret where
  setting : String
  error : EnvironmentError
deriving DecidableEq, Repr

namespace UnresolvedSecret

/-- The words for an unresolved secret. -/
def message (unresolved : UnresolvedSecret) : String :=
  "cannot resolve " ++ unresolved.setting ++ ": " ++ unresolved.error.message

end UnresolvedSecret

namespace Configuration

/-- Resolves what is needed at run time. -/
def resolve (configuration : Configuration) (environment : Environment) :
    Except UnresolvedSecret RuntimeConfiguration :=
  match configuration.connection.uri.resolve environment with
  | .ok uri => .ok ⟨configuration.catalog, configuration.connection.schema, uri, configuration.pool⟩
  | .error error => .error ⟨"connectionUri", error⟩

end Configuration

end CatalogSql
