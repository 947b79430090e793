import CatalogSql.Configuration.Basic
import CatalogSql.Proofs.Json.Decoded

/-!
# Configurations are read as they are written

Each part of a configuration is decoded from its written form: what is left out when it is
standard or empty comes back as the standard or empty value, and maps come back with their order.
-/

namespace CatalogSql

open Json (Decoder Decodes Fills)

namespace Json

variable {σ α β : Type}

/-- A field that is kept in a slot of a draft is read by its decoder. -/
theorem Fills.of {room : Nat} {record : Decoder.Record σ α} {name : String} {written : Json}
    {get : σ → Option β} {set : σ → β → σ} {decoder : Decoder β} {value : β}
    {rest : List (String × Json)} {draft last : σ} {optional : Bool}
    (found : record.fields.find? (·.name == name) =
      some { Decoder.Field.of name get set decoder with optional := optional })
    (fresh : get draft = none) (decodes : Decodes room decoder written value)
    (others : Fills room record rest (set draft value) last) :
    Fills room record ((name, written) :: rest) draft last := by
  refine .field found ?_ (decodes.map (set draft)) others
  simp [Decoder.Field.of, fresh]

end Json

/-! ## Secrets and settings -/

/-- A secret is decoded from its own encoding. -/
theorem Secret.decodes (secret : Secret) : Decodes 1 Secret.decoder secret.toJson secret := by
  intro depth node enough shows
  cases secret with
  | plain value =>
      obtain ⟨start, stop, rfl⟩ := shows
      rfl
  | ofVariable name =>
      obtain ⟨start, stop, _, bracket, rfl, _, _, _, rfl, ⟨textStart, textStop, rfl⟩, rfl⟩ := shows
      have level := Json.checkLevel_of_le enough start
      simp [decoder, Json.Node.value, Json.Node.entries, level, Json.Node.Finish.strict,
        variableNodes, bind, Except.bind]
      rfl

/-- A secret is never encoded as `null`. -/
theorem Secret.toJson_ne_null (secret : Secret) : secret.toJson ≠ .null := by
  cases secret <;> rintro ⟨⟩

/-- The connection settings are decoded from their own encoding. -/
theorem ConnectionSettings.decodes (settings : ConnectionSettings) :
    Decodes 2 record.decoder settings.toJson settings := by
  obtain ⟨uri, schema⟩ := settings
  have fills : Fills 1 record
      [("connectionUri", uri.toJson), ("schema", .string schema)] record.draft
      ⟨some uri, some schema⟩ :=
    .of rfl rfl uri.decodes <| .of rfl rfl ((Decodes.string schema).mono (by decide)) (.nil _)
  exact fills.decodes rfl

/-- The introspection settings are decoded from their own encoding. -/
theorem IntrospectionSettings.decodes (settings : IntrospectionSettings) :
    Decodes 2 record.decoder settings.toJson settings := by
  obtain ⟨endpoint, bearerToken, marker⟩ := settings
  have marked : Decodes 1 Decoder.string (.string marker) marker :=
    (Decodes.string marker).mono (by decide)
  cases bearerToken with
  | none =>
      have fills : Fills 1 record
          [("endpoint", endpoint.toJson), ("markerInterface", .string marker)] record.draft
          ⟨some endpoint, none, some marker⟩ :=
        .of rfl rfl endpoint.decodes <| .of rfl rfl marked (.nil _)
      exact fills.decodes rfl
  | some token =>
      have given : Decodes 1 (Decoder.option Secret.decoder) token.toJson (some token) :=
        token.decodes.option_some token.toJson_ne_null
      have fills : Fills 1 record
          [("endpoint", endpoint.toJson), ("bearerToken", token.toJson),
            ("markerInterface", .string marker)] record.draft
          ⟨some endpoint, some (some token), some marker⟩ :=
        .of rfl rfl endpoint.decodes <| .of rfl rfl given <| .of rfl rfl marked (.nil _)
      exact fills.decodes rfl

namespace PoolSettings

/-- A count of connections is decoded from its number. -/
theorem decodes_count (value : UInt32) : Decodes 0 count (.integer value.toNat) value := by
  have decodes := (Decodes.natural value.toNat_lt "u32").map UInt32.ofNat
  rwa [UInt32.ofNat_toNat] at decodes

/-- A number of seconds is decoded from itself. -/
theorem decodes_seconds (value : UInt64) : Decodes 0 seconds (.integer value.toNat) value := by
  have decodes := (Decodes.natural value.toNat_lt "u64").map UInt64.ofNat
  rwa [UInt64.ofNat_toNat] at decodes

/-- A time limit that may be missing is decoded from its own encoding. -/
theorem decodes_secondsJson (value : Option UInt64) :
    Decodes 0 (Decoder.option seconds) (secondsJson value) value := by
  cases value with
  | none => exact .option_none
  | some value => exact (decodes_seconds value).option_some (by rintro ⟨⟩)

/-- The pool settings are decoded from their own encoding. -/
theorem decodes (settings : PoolSettings) : Decodes 1 decoder settings.toJson settings := by
  obtain ⟨maxConnections, acquireTimeout, idleTimeout, connectionLifetime⟩ := settings
  have fills : Fills 0 record
      [("maxConnections", .integer maxConnections.toNat),
        ("poolTimeout", .integer acquireTimeout.toNat),
        ("idleTimeout", secondsJson idleTimeout),
        ("connectionLifetime", secondsJson connectionLifetime)] record.draft
      ⟨some maxConnections, some acquireTimeout, some idleTimeout, some connectionLifetime⟩ :=
    .of rfl rfl (decodes_count maxConnections) <| .of rfl rfl (decodes_seconds acquireTimeout) <|
      .of rfl rfl (decodes_secondsJson idleTimeout) <|
      .of rfl rfl (decodes_secondsJson connectionLifetime) (.nil _)
  exact fills.decodes rfl

end PoolSettings

/-! ## Catalogs -/

/-- A semantic type is decoded from its name. -/
theorem SemanticType.decodes (type : SemanticType) :
    Decodes 0 SemanticType.decoder (.string type.name) type := by
  refine .choice ?_
  cases type <;> rfl

/-- The kind of a type is decoded from its name. -/
theorem TypeKind.decodes (kind : TypeKind) :
    Decodes 0 TypeKind.decoder (.string kind.name) kind := by
  refine .choice ?_
  cases kind <;> rfl

/-- The fields of a type are decoded from their own encoding, in their order. -/
theorem Fields.decodes (fields : Fields) :
    Decodes 1 Fields.decoder (Fields.toJson fields) fields :=
  Decodes.orderedMap (fun type : SemanticType => .string type.name) fun field _ =>
    SemanticType.decodes field.2

/-- A type is decoded from its own encoding. -/
theorem TypeInfo.decodes (type : TypeInfo) : Decodes 2 TypeInfo.decoder type.toJson type := by
  obtain ⟨name, kind, fields, inputFields⟩ := type
  have shared : Fills 1 record
      [("name", .string name), ("kind", .string kind.name), ("fields", Fields.toJson fields)]
      record.draft ⟨some name, some kind, some fields, none⟩ :=
    .of rfl rfl ((Decodes.string name).mono (by decide)) <|
      .of rfl rfl (kind.decodes.mono (by decide)) <|
      .of rfl rfl (Fields.decodes fields) (.nil _)
  by_cases empty : inputFields.isEmpty
  · have none : inputFields = .empty :=
      OrderedMap.ext (List.isEmpty_iff.mp empty)
    subst none
    exact shared.decodes rfl
  · have further : Fills 1 record [("inputFields", Fields.toJson inputFields)]
        ⟨some name, some kind, some fields, none⟩
        ⟨some name, some kind, some fields, some inputFields⟩ :=
      .of rfl rfl (Fields.decodes inputFields) (.nil _)
    have shape : toJson ⟨name, kind, fields, inputFields⟩ = .object
        ([("name", .string name), ("kind", .string kind.name), ("fields", Fields.toJson fields)] ++
          [("inputFields", Fields.toJson inputFields)]) := by
      simp [toJson, empty]
    rw [shape]
    exact (shared.append further).decodes rfl

/-- A catalog is decoded from its own encoding. -/
theorem Catalog.decodes (catalog : Catalog) :
    Decodes 3 Catalog.decoder catalog.toJson catalog :=
  (Decodes.sortedMap TypeInfo.toJson fun entry _ => TypeInfo.decodes entry.2).map Catalog.mk

namespace Configuration

/-- A configuration is decoded from its own encoding. -/
theorem decodes (configuration : Configuration) :
    Decodes 4 Configuration.decoder configuration.toJson configuration := by
  obtain ⟨version, connection, introspection, pool, catalog⟩ := configuration
  have first : Fills 3 record
      [("version", .integer version.toNat), ("connectionSettings", connection.toJson),
        ("introspection", introspection.toJson)] record.draft
      ⟨some version, some connection, some introspection, none, none⟩ :=
    .of rfl rfl ((PoolSettings.decodes_count version).mono (by decide)) <|
      .of rfl rfl (connection.decodes.mono (by decide)) <|
      .of rfl rfl (introspection.decodes.mono (by decide)) (.nil _)
  by_cases isStandard : pool = .standard
  · subst isStandard
    have last : Fills 3 record [("catalog", catalog.toJson)]
        ⟨some version, some connection, some introspection, none, none⟩
        ⟨some version, some connection, some introspection, none, some catalog⟩ :=
      .of rfl rfl catalog.decodes (.nil _)
    exact (first.append last).decodes rfl
  · have last : Fills 3 record [("poolSettings", pool.toJson), ("catalog", catalog.toJson)]
        ⟨some version, some connection, some introspection, none, none⟩
        ⟨some version, some connection, some introspection, some pool, some catalog⟩ :=
      .of rfl rfl (pool.decodes.mono (by decide)) <| .of rfl rfl catalog.decodes (.nil _)
    have shape : toJson ⟨version, connection, introspection, pool, catalog⟩ = .object
        ([("version", .integer version.toNat), ("connectionSettings", connection.toJson),
          ("introspection", introspection.toJson)] ++
          [("poolSettings", pool.toJson), ("catalog", catalog.toJson)]) := by
      simp [toJson, isStandard]
    rw [shape]
    exact (first.append last).decodes rfl

end Configuration

end CatalogSql
