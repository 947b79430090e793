import CatalogSql.Introspection.Service
import CatalogSql.Keyed.Ordered

/-!
# Declared types

A schema service that answers from a table of definitions and notes what it was asked
for. A type without an entry is not declared.
-/

namespace CatalogSql

/-- What a service is asked for. -/
inductive SchemaQuestion where
  | typeNames
  | definition (name : String)
deriving DecidableEq, Repr

/-- The answers of a service, and what it was asked for, the last question first. -/
structure DeclaredTypes where
  names : Except IntrospectionError (List String)
  definitions : List (String × Except IntrospectionError (Option TypeDefinition))
  asked : List SchemaQuestion

namespace DeclaredTypes

/-- The answer to a question for a definition. -/
def definition (types : DeclaredTypes) (name : String) :
    Except IntrospectionError (Option TypeDefinition) :=
  (Keyed.lookup? name types.definitions).getD (.ok none)

/-- The same answers after one more question. -/
def note (types : DeclaredTypes) (question : SchemaQuestion) : DeclaredTypes :=
  { types with asked := question :: types.asked }

/-- The service that gives these answers. -/
def service : SchemaService DeclaredTypes where
  typeNames types := (types.names, types.note .typeNames)
  definition name types := (types.definition name, types.note (.definition name))

/-- The same answers but for the definition of one name. -/
def declare (types : DeclaredTypes) (name : String)
    (answer : Except IntrospectionError (Option TypeDefinition)) : DeclaredTypes :=
  { types with definitions := Keyed.put name answer types.definitions }

end DeclaredTypes

end CatalogSql
