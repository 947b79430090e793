import CatalogSql.Json.Decoder

/-!
# Introspected types

What a schema service tells about a type: its interfaces, its fields and its input
fields, each with a reference to a type that may be wrapped.
-/

namespace CatalogSql

open Json (Decoder)

/-- The kinds of type references. -/
inductive ReferenceKind where
  | scalar
  | object
  | interface
  | union
  | enumeration
  | inputObject
  | list
  | nonNull
deriving DecidableEq, Repr

namespace ReferenceKind

/-- The kinds under their names in replies. -/
def named : List (String × ReferenceKind) :=
  [("SCALAR", .scalar), ("OBJECT", .object), ("INTERFACE", .interface), ("UNION", .union),
    ("ENUM", .enumeration), ("INPUT_OBJECT", .inputObject), ("LIST", .list),
    ("NON_NULL", .nonNull)]

/-- The name of a kind in warnings. -/
def shown : ReferenceKind → String
  | .scalar => "Scalar"
  | .object => "Object"
  | .interface => "Interface"
  | .union => "Union"
  | .enumeration => "Enum"
  | .inputObject => "InputObject"
  | .list => "List"
  | .nonNull => "NonNull"

/-- Reads a kind by its name. -/
def decoder : Decoder ReferenceKind := Decoder.choice named

end ReferenceKind

/-- A reference to a type. Lists and required types wrap another one. -/
structure TypeReference where
  kind : ReferenceKind
  name : Option String
  wrapped : Option TypeReference
  enumValues : Option (List String)

/-- How an object is read of which only the name counts. -/
def namedRecord (type : String) : Decoder.Record (Option String) String where
  name := type
  fields := [.of "name" id (fun _ value => some value) Decoder.string]
  draft := none
  complete draft := Decoder.required "name" draft

namespace TypeReference

/-- What has been read of a reference. -/
structure Draft where
  kind : Option ReferenceKind
  name : Option (Option String)
  wrapped : Option (Option TypeReference)
  enumValues : Option (Option (List String))

/-- How a reference is read, given how the reference it wraps is read. -/
def record (wrapped : Decoder TypeReference) : Decoder.Record Draft TypeReference where
  name := "TypeRef"
  fields :=
    [.of "kind" (·.kind) (fun draft value => { draft with kind := some value })
        ReferenceKind.decoder,
      (Decoder.Field.of "name" (·.name) (fun draft value => { draft with name := some value })
        (Decoder.option Decoder.string)).defaulted,
      (Decoder.Field.of "ofType" (·.wrapped)
        (fun draft value => { draft with wrapped := some value })
        (Decoder.option wrapped)).defaulted,
      (Decoder.Field.of "enumValues" (·.enumValues)
        (fun draft value => { draft with enumValues := some value })
        (Decoder.option (Decoder.list (namedRecord "EnumValue").decoder))).defaulted]
  draft := ⟨none, none, none, none⟩
  complete draft := do
    let kind ← Decoder.required "kind" draft.kind
    return ⟨kind, draft.name.getD none, draft.wrapped.getD none, draft.enumValues.getD none⟩

/-- Reads a reference that wraps at most the given number of others. -/
def decoderWithin : Nat → Decoder TypeReference
  | 0 => fun _ node => .error (Decoder.wrongType "struct TypeRef" node)
  | depth + 1 => (record (decoderWithin depth)).decoder

/-- Reads a reference. One inside another lies deeper in the text. -/
def decoder : Decoder TypeReference := fun origin node =>
  decoderWithin (node.height + 1) origin node

end TypeReference

/-- A field of an introspected type. -/
structure IntrospectedField where
  name : String
  type : TypeReference

namespace IntrospectedField

/-- What has been read of a field. -/
structure Draft where
  name : Option String
  type : Option TypeReference

/-- How a field is read. -/
def record : Decoder.Record Draft IntrospectedField where
  name := "IntrospectedField"
  fields :=
    [.of "name" (·.name) (fun draft value => { draft with name := some value }) Decoder.string,
      .of "type" (·.type) (fun draft value => { draft with type := some value })
        TypeReference.decoder]
  draft := ⟨none, none⟩
  complete draft := do
    let name ← Decoder.required "name" draft.name
    return ⟨name, ← Decoder.required "type" draft.type⟩

/-- Reads a field. -/
def decoder : Decoder IntrospectedField := record.decoder

end IntrospectedField

/-- A type as a schema service declares it. -/
structure TypeDefinition where
  name : String
  interfaces : Option (List String)
  fields : Option (List IntrospectedField)
  inputFields : Option (List IntrospectedField)

namespace TypeDefinition

/-- Whether a type declares an interface. -/
def declares (definition : TypeDefinition) (interface : String) : Bool :=
  (definition.interfaces.getD []).contains interface

/-- What has been read of a type. -/
structure Draft where
  name : Option String
  interfaces : Option (Option (List String))
  fields : Option (Option (List IntrospectedField))
  inputFields : Option (Option (List IntrospectedField))

/-- How a type is read. -/
def record : Decoder.Record Draft TypeDefinition where
  name := "IntrospectedType"
  fields :=
    [.of "name" (·.name) (fun draft value => { draft with name := some value }) Decoder.string,
      (Decoder.Field.of "interfaces" (·.interfaces)
        (fun draft value => { draft with interfaces := some value })
        (Decoder.option (Decoder.list (namedRecord "InterfaceRef").decoder))).defaulted,
      (Decoder.Field.of "fields" (·.fields)
        (fun draft value => { draft with fields := some value })
        (Decoder.option (Decoder.list IntrospectedField.decoder))).defaulted,
      (Decoder.Field.of "inputFields" (·.inputFields)
        (fun draft value => { draft with inputFields := some value })
        (Decoder.option (Decoder.list IntrospectedField.decoder))).defaulted]
  draft := ⟨none, none, none, none⟩
  complete draft := do
    let name ← Decoder.required "name" draft.name
    return ⟨name, draft.interfaces.getD none, draft.fields.getD none, draft.inputFields.getD none⟩

/-- Reads a type. -/
def decoder : Decoder TypeDefinition := record.decoder

end TypeDefinition

end CatalogSql
