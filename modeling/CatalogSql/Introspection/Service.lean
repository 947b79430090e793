import CatalogSql.Introspection.Definition
import CatalogSql.Introspection.Http

/-!
# Schema services

A schema service tells the names of all types and the definition of each. It may answer
differently every time, so it works on a state.
-/

namespace CatalogSql

/-- Why a schema service gave no answer. -/
inductive IntrospectionError where
  | invalidEndpoint (error : Url.Error)
  | request (failure : HttpFailure)
  | refused (messages : List String)
  | missingData
  | typeNotFound (name : String)
deriving DecidableEq, Repr

namespace IntrospectionError

/-- The words for an error. -/
def message : IntrospectionError → String
  | .invalidEndpoint error => "invalid introspection endpoint: " ++ error.message
  | .request failure => "introspection request failed: " ++ failure.message
  | .refused messages => "introspection query returned errors: " ++ "; ".intercalate messages
  | .missingData => "introspection query returned no data"
  | .typeNotFound name => "type '" ++ name ++ "' is not declared by the schema service"

/-- What caused an error, each cause with those below it. -/
def causes : IntrospectionError → List String
  | .invalidEndpoint error => [error.message]
  | .request failure => failure.chain
  | _ => []

/-- The name by which programs tell errors apart. -/
def kind : IntrospectionError → String
  | .invalidEndpoint _ => "InvalidEndpoint"
  | .request _ => "Http"
  | .refused _ => "GraphQl"
  | .missingData => "MissingData"
  | .typeNotFound _ => "TypeNotFound"

end IntrospectionError

/-- A service that describes the types of a schema. A type it does not declare has no
definition. -/
structure SchemaService (σ : Type) where
  typeNames : σ → Except IntrospectionError (List String) × σ
  definition : String → σ → Except IntrospectionError (Option TypeDefinition) × σ

end CatalogSql
