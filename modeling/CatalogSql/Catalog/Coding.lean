import CatalogSql.Catalog.Basic
import CatalogSql.Json.Decoder

/-!
# Catalogs in json

The written form of semantic types, types and catalogs, and reading it back.
-/

namespace CatalogSql

open Json (Decoder)

namespace SemanticType

/-- Reads a semantic type by its name. -/
def decoder : Decoder SemanticType := Decoder.choice (all.map fun type => (type.name, type))

end SemanticType

namespace TypeKind

/-- Reads a kind by its name. -/
def decoder : Decoder TypeKind := Decoder.choice [("table", .table), ("reference", .reference)]

end TypeKind

namespace Fields

/-- Reads fields in the order of their declaration. -/
def decoder : Decoder Fields := Decoder.orderedMap SemanticType.decoder

/-- The written form of fields. -/
def toJson (fields : Fields) : Json :=
  .object (fields.entries.map fun field => (field.1, .string field.2.name))

end Fields

namespace TypeInfo

/-- What has been read of a type. -/
structure Draft where
  name : Option String
  kind : Option TypeKind
  fields : Option Fields
  inputFields : Option Fields

/-- How a type is read. Both kinds of fields may be left out. -/
def record : Decoder.Record Draft TypeInfo where
  name := "TypeInfo"
  fields :=
    [.of "name" (·.name) (fun draft value => { draft with name := some value }) Decoder.string,
      .of "kind" (·.kind) (fun draft value => { draft with kind := some value })
        TypeKind.decoder,
      (Decoder.Field.of "fields" (·.fields)
        (fun draft value => { draft with fields := some value }) Fields.decoder).defaulted,
      (Decoder.Field.of "inputFields" (·.inputFields)
        (fun draft value => { draft with inputFields := some value }) Fields.decoder).defaulted]
  draft := ⟨none, none, none, none⟩
  complete draft := do
    let name ← Decoder.required "name" draft.name
    let kind ← Decoder.required "kind" draft.kind
    return ⟨name, kind, draft.fields.getD .empty, draft.inputFields.getD .empty⟩

/-- Reads a type. -/
def decoder : Decoder TypeInfo := record.decoder

/-- The written form of a type. Input fields are written when there are any. -/
def toJson (type : TypeInfo) : Json :=
  .object
    ([("name", .string type.name), ("kind", .string type.kind.name),
      ("fields", Fields.toJson type.fields)] ++
      if type.inputFields.isEmpty then [] else [("inputFields", Fields.toJson type.inputFields)])

end TypeInfo

namespace Catalog

/-- Reads a catalog. -/
def decoder : Decoder Catalog := fun origin node =>
  (Decoder.sortedMap TypeInfo.decoder origin node).map Catalog.mk

/-- The written form of a catalog. -/
def toJson (catalog : Catalog) : Json :=
  .object (catalog.types.entries.map fun entry => (entry.1, entry.2.toJson))

end Catalog

end CatalogSql
