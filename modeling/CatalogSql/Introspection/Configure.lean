import CatalogSql.Configuration.Basic
import CatalogSql.Introspection.Compiler
import CatalogSql.Introspection.GraphQl

/-!
# Introspecting from a configuration

The introspection settings of a configuration lead to a schema service. What it
declares becomes the catalog of a new configuration with the same settings.
-/

namespace CatalogSql

/-- Why a configuration has no new catalog. -/
inductive ConfigureError where
  | environment (error : EnvironmentError)
  | introspection (error : IntrospectionError)
deriving DecidableEq, Repr

namespace ConfigureError

/-- The words for an error. -/
def message : ConfigureError → String
  | .environment error => error.message
  | .introspection error => error.message

/-- What caused an error, each cause with those below it. -/
def causes : ConfigureError → List String
  | .environment _ => []
  | .introspection error => error.causes

end ConfigureError

namespace IntrospectionSettings

variable {σ : Type}

/-- The schema service that settings lead to. -/
def service (settings : IntrospectionSettings) (environment : Environment)
    (client : HttpClient σ) : Except ConfigureError (SchemaService σ) := do
  let endpoint ← (settings.endpoint.resolve environment).mapError .environment
  let token ← (settings.bearerToken.mapM (Secret.resolve environment)).mapError .environment
  let url ← (Url.ofText endpoint).mapError fun error => .introspection (.invalidEndpoint error)
  return GraphQl.service client url token

end IntrospectionSettings

namespace Configuration

variable {σ : Type}

/-- The configuration with the catalog of a service. -/
def introspectWith (configuration : Configuration) (service : SchemaService σ) (state : σ) :
    Except ConfigureError Configuration × σ :=
  match (Compiler.new configuration.introspection.markerInterface).compile service state with
  | (.ok catalog, _, state) =>
      (.ok { configuration with version := currentVersion, catalog }, state)
  | (.error error, _, state) => (.error (.introspection error), state)

/-- The configuration with the catalog of the service its settings lead to. -/
def introspect (configuration : Configuration) (environment : Environment)
    (client : HttpClient σ) (state : σ) : Except ConfigureError Configuration × σ :=
  match configuration.introspection.service environment client with
  | .ok service => configuration.introspectWith service state
  | .error error => (.error error, state)

end Configuration

end CatalogSql
