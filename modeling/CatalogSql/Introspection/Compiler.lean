import CatalogSql.Catalog.Basic
import CatalogSql.Introspection.Classify
import CatalogSql.Introspection.Service

/-!
# Compiling catalogs

A compiler asks a schema service for the types of a schema and builds a catalog. It
keeps every type it has resolved under the name it asked for, and never asks for it
again. A type that cannot be fetched is reported and left out.
-/

namespace CatalogSql

/-- A type as it enters the catalog, with the warnings about its fields. -/
structure CompiledType where
  type : TypeInfo
  warnings : List ClassificationWarning

namespace TypeDefinition

/-- The fields of a type with what each was classified as. -/
def classified (definition : TypeDefinition) :
    List (String × Except ClassificationWarning SemanticType) :=
  (definition.fields.getD []).map fun field => (field.name, field.classify definition.name)

/-- The fields of a type; the ones that could not be classified are unknown. -/
def semanticFields (definition : TypeDefinition) : Fields :=
  .ofList (definition.classified.map fun field =>
    (field.1, match field.2 with
      | .ok type => type
      | .error _ => .unknown))

/-- The warnings about the fields of a type. -/
def warnings (definition : TypeDefinition) : List ClassificationWarning :=
  definition.classified.filterMap fun field =>
    match field.2 with
    | .ok _ => none
    | .error warning => some warning

/-- The input fields of a type that are kept. -/
def semanticInputFields (definition : TypeDefinition) : Fields :=
  .ofList ((definition.inputFields.getD []).filterMap fun field =>
    field.classifyInput?.map fun type => (field.name, type))

/-- A type as it enters a catalog. Types that declare the marking interface are tables. -/
def compile (definition : TypeDefinition) (marker : String) : CompiledType where
  type :=
    { name := definition.name
      kind := if definition.declares marker then .table else .reference
      fields := definition.semanticFields
      inputFields := definition.semanticInputFields }
  warnings := definition.warnings

end TypeDefinition

/-- A type that could not be fetched, and why. -/
structure TypeFailure where
  type : String
  error : IntrospectionError
deriving DecidableEq, Repr

/-- What the last compile found. -/
structure CompileReport where
  tables : List String
  warnings : List ClassificationWarning
  failures : List TypeFailure
deriving DecidableEq, Repr

namespace CompileReport

/-- The report before the first compile. -/
def empty : CompileReport := ⟨[], [], []⟩

end CompileReport

/-- What a compiler has resolved, by the names it asked for, and its last report. -/
structure Compiler where
  marker : String
  cache : SortedMap CompiledType
  report : CompileReport

namespace Compiler

variable {σ : Type}

/-- A compiler that has resolved nothing. -/
def new (marker : String) : Compiler := ⟨marker, .empty, .empty⟩

/-- Adds a fetched type. -/
def store (compiler : Compiler) (name : String) (definition : TypeDefinition) : Compiler :=
  { compiler with cache := compiler.cache.insert name (definition.compile compiler.marker) }

/-- Resolves a type, from the cache when it was resolved before. -/
def resolve (compiler : Compiler) (service : SchemaService σ) (name : String) (state : σ) :
    Except IntrospectionError TypeInfo × Compiler × σ :=
  match compiler.cache.get? name with
  | some compiled => (.ok compiled.type, compiler, state)
  | none =>
      match service.definition name state with
      | (.ok (some definition), state) =>
          (.ok (definition.compile compiler.marker).type, compiler.store name definition, state)
      | (.ok none, state) => (.error (.typeNotFound name), compiler, state)
      | (.error error, state) => (.error error, compiler, state)

/-- Resolves types one after another and returns those that failed. -/
def resolveAll (service : SchemaService σ) :
    List String → Compiler → σ → List TypeFailure × Compiler × σ
  | [], compiler, state => ([], compiler, state)
  | name :: rest, compiler, state =>
      match compiler.resolve service name state with
      | (.ok _, compiler, state) => resolveAll service rest compiler state
      | (.error error, compiler, state) =>
          let (failures, compiler, state) := resolveAll service rest compiler state
          (⟨name, error⟩ :: failures, compiler, state)

/-- The catalog of all resolved types, under the names they carry. -/
def catalog (compiler : Compiler) : Catalog :=
  .ofTypes (compiler.cache.values.map (·.type))

/-- The report after a compile with some failures. -/
def reportWith (compiler : Compiler) (failures : List TypeFailure) : CompileReport where
  tables := compiler.catalog.tables.map (·.name)
  warnings := compiler.cache.values.flatMap (·.warnings)
  failures := failures

/-- Whether a name is one of the schema language itself. -/
def isMeta (name : String) : Bool := name.startsWith "__"

/-- Compiles the catalog of all declared types. When the names cannot be listed nothing
changes. -/
def compile (compiler : Compiler) (service : SchemaService σ) (state : σ) :
    Except IntrospectionError Catalog × Compiler × σ :=
  match service.typeNames state with
  | (.error error, state) => (.error error, compiler, state)
  | (.ok names, state) =>
      let (failures, compiler, state) :=
        resolveAll service (names.filter fun name => !isMeta name) compiler state
      (.ok compiler.catalog, { compiler with report := compiler.reportWith failures }, state)

end Compiler

end CatalogSql
