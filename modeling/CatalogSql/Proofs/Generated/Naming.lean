import CatalogSql.Generated.Names
import CatalogSql.Proofs.Generated.Identifiers

/-!
# Names for tables and fields

Whatever a spelling makes of names, the identifiers declared for the tables of a catalog and for
their fields are valid, and each scope has one for every name.
-/

namespace CatalogSql

namespace Spelling

variable (spelling : Spelling) (name : String)

/-- The constant of a name is a valid identifier. -/
theorem isValid_constant : (spelling.constant name).IsValid := by
  have isWord : Identifier.IsWord "FIELD_".toList := ⟨by simp, by simp, by simp⟩
  exact Identifier.isValid_ofText isWord _

/-- The member of a name is a valid identifier. -/
theorem isValid_member : (spelling.member name).IsValid := by
  have isWord : Identifier.IsWord "field_".toList := ⟨by simp, by simp, by simp⟩
  exact Identifier.isValid_ofText isWord _

/-- The record of a name is a valid identifier. -/
theorem isValid_record : (spelling.record name).IsValid := by
  have isWord : Identifier.IsWord "Type_".toList := ⟨by simp, by simp, by simp⟩
  exact Identifier.isValid_ofText isWord _

end Spelling

namespace TypeInfo

variable (type : TypeInfo) (spelling : Spelling)

/-- A type has a member for each field with a column. -/
theorem map_field_members :
    (type.members spelling).map (fun member => (member.field, member.type)) =
      type.storableFields := by
  rw [members, ← List.map_uncurry_zip_eq_zipWith, List.map_map]
  exact List.map_fst_zip (by simp)

/-- The members of a row are its stored fields, spelled as members and made distinct. -/
theorem map_identifier_members :
    (type.members spelling).map (·.identifier) =
      Identifier.distinct (type.storableFields.map fun field => spelling.member field.1) := by
  rw [members, ← List.map_uncurry_zip_eq_zipWith, List.map_map]
  exact List.map_snd_zip (by simp)

/-- A type has a constant for each field. -/
theorem map_fst_fieldConstants :
    (type.fieldConstants spelling).map (·.1) = type.fields.keys :=
  List.map_fst_zip (by simp)

/-- The constants of a table are its fields, spelled as constants and made distinct. -/
theorem map_snd_fieldConstants :
    (type.fieldConstants spelling).map (·.2) =
      Identifier.distinct (type.fields.keys.map spelling.constant) :=
  List.map_snd_zip (by simp)

/-- The members of a row declare its stored fields. -/
theorem declares_members :
    Identifier.Declares (type.storableFields.map fun field => spelling.member field.1)
      ((type.members spelling).map (·.identifier)) := by
  rw [map_identifier_members]
  exact Identifier.declares_distinct
    (List.forall_mem_map.mpr fun field _ => spelling.isValid_member field.1)

/-- The constants of a table declare its fields. -/
theorem declares_fieldConstants :
    Identifier.Declares (type.fields.keys.map spelling.constant)
      ((type.fieldConstants spelling).map (·.2)) := by
  rw [map_snd_fieldConstants]
  exact Identifier.declares_distinct
    (List.forall_mem_map.mpr fun field _ => spelling.isValid_constant field)

end TypeInfo

/-- The identifiers for a table are valid. -/
structure TableNames.IsValid (names : TableNames) : Prop where
  constant : names.constant.IsValid
  fieldModule : names.fieldModule.IsValid
  record : names.record.IsValid
  fieldConstants : ∀ field ∈ names.fieldConstants, field.2.IsValid
  members : ∀ member ∈ names.members, member.identifier.IsValid

namespace Catalog

section

variable (catalog : Catalog) (spelling : Spelling)

/-- Every table has its names declared, in the order of the tables. -/
theorem map_table_tableNamesIn :
    (catalog.tableNamesIn spelling).map (·.table) = catalog.tables := by
  rw [tableNamesIn, ← List.map_uncurry_zip_eq_zipWith, List.map_map]
  exact List.map_fst_zip (by simp [tableIdentifiers])

/-- Every table has names declared. -/
theorem exists_mem_tableNamesIn (table : TypeInfo) (mem : table ∈ catalog.tables) :
    ∃ names ∈ catalog.tableNamesIn spelling, names.table = table := by
  rw [← catalog.map_table_tableNamesIn spelling] at mem
  exact List.mem_map.mp mem

/-- The identifiers of all tables in the scopes that they share. -/
theorem map_identifiers_tableNamesIn :
    (catalog.tableNamesIn spelling).map (fun names =>
        (names.constant, names.fieldModule, names.record)) =
      (catalog.tableIdentifiers spelling.constant).zip
        ((catalog.tableIdentifiers spelling.member).zip
          (catalog.tableIdentifiers spelling.record)) := by
  rw [tableNamesIn, ← List.map_uncurry_zip_eq_zipWith, List.map_map]
  exact List.map_snd_zip (by simp [tableIdentifiers])

/-- The tables of a module have the constants made for them. -/
theorem map_constant_tableNamesIn :
    (catalog.tableNamesIn spelling).map (·.constant) =
      catalog.tableIdentifiers spelling.constant := by
  have identifiers := congrArg (List.map (·.1)) (catalog.map_identifiers_tableNamesIn spelling)
  rw [List.map_map] at identifiers
  exact identifiers.trans (List.map_fst_zip (by simp [tableIdentifiers]))

/-- The tables of a module have the field modules made for them. -/
theorem map_fieldModule_tableNamesIn :
    (catalog.tableNamesIn spelling).map (·.fieldModule) =
      catalog.tableIdentifiers spelling.member := by
  have identifiers := congrArg (fun given => (given.map (·.2)).map (·.1))
    (catalog.map_identifiers_tableNamesIn spelling)
  rw [List.map_map, List.map_map, List.map_snd_zip (by simp [tableIdentifiers])] at identifiers
  exact identifiers.trans (List.map_fst_zip (by simp [tableIdentifiers]))

/-- The tables of a module have the records made for them. -/
theorem map_record_tableNamesIn :
    (catalog.tableNamesIn spelling).map (·.record) = catalog.tableIdentifiers spelling.record := by
  have identifiers := congrArg (fun given => (given.map (·.2)).map (·.2))
    (catalog.map_identifiers_tableNamesIn spelling)
  rw [List.map_map, List.map_map, List.map_snd_zip (by simp [tableIdentifiers])] at identifiers
  exact identifiers.trans (List.map_snd_zip (by simp [tableIdentifiers]))

/-- A scope that the tables share declares one identifier for each. -/
theorem declares_tableIdentifiers {identifier : String → Identifier}
    (valid : ∀ name, (identifier name).IsValid) :
    Identifier.Declares (catalog.tables.map fun table => identifier table.name)
      (catalog.tableIdentifiers identifier) :=
  Identifier.declares_distinct (List.forall_mem_map.mpr fun table _ => valid table.name)

end

section

variable {catalog : Catalog} {spelling : Spelling} {names : TableNames}
  (declared : names ∈ catalog.tableNamesIn spelling)
include declared

/-- The members of a table in a module are those of the table alone. -/
theorem members_of_mem_tableNamesIn : names.members = names.table.members spelling := by
  rw [tableNamesIn, ← List.map_uncurry_zip_eq_zipWith, List.mem_map] at declared
  obtain ⟨_, -, rfl⟩ := declared
  rfl

/-- The constants of the fields of a table in a module are those of the table alone. -/
theorem fieldConstants_of_mem_tableNamesIn :
    names.fieldConstants = names.table.fieldConstants spelling := by
  rw [tableNamesIn, ← List.map_uncurry_zip_eq_zipWith, List.mem_map] at declared
  obtain ⟨_, -, rfl⟩ := declared
  rfl

/-- The identifiers declared for a table are valid. -/
theorem isValid_of_mem_tableNamesIn : names.IsValid := by
  have constants := catalog.declares_tableIdentifiers spelling.isValid_constant
  have modules := catalog.declares_tableIdentifiers spelling.isValid_member
  have records := catalog.declares_tableIdentifiers spelling.isValid_record
  rw [← map_constant_tableNamesIn] at constants
  rw [← map_fieldModule_tableNamesIn] at modules
  rw [← map_record_tableNamesIn] at records
  refine ⟨constants.valid _ (List.mem_map_of_mem declared),
    modules.valid _ (List.mem_map_of_mem declared),
    records.valid _ (List.mem_map_of_mem declared), ?_, ?_⟩
  · intro field mem
    rw [fieldConstants_of_mem_tableNamesIn declared] at mem
    exact (names.table.declares_fieldConstants spelling).valid _ (List.mem_map_of_mem mem)
  · intro member mem
    rw [members_of_mem_tableNamesIn declared] at mem
    exact (names.table.declares_members spelling).valid _ (List.mem_map_of_mem mem)

end

end Catalog

end CatalogSql
