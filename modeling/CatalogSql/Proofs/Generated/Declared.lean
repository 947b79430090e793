import CatalogSql.Access.Accessor
import CatalogSql.Proofs.Generated.Readable
import CatalogSql.Proofs.Keyed.Sorted

/-!
# What generated modules declare

The text of a generated module declares valid identifiers, one for each name and no two alike in
a scope, and it denotes the catalog it was generated from. Both are shown of the module that is
read back from the text.
-/

namespace CatalogSql

namespace Generated

/-! ## Declared identifiers -/

/-- A module declares an identifier for every table, for every field and for every stored field
of a table. The constants of tables stand for them in two modules, and so do their structs. -/
structure WrittenModule.DeclaresNames (written : WrittenModule) (catalog : Catalog)
    (spelling : Spelling) : Prop where
  tables : Identifier.Declares (catalog.tables.map fun table => spelling.constant table.name)
    (written.tables.map (·.1))
  fieldTypes : written.fieldTypes.map (·.1) = written.tables.map (·.1)
  fieldModules : Identifier.Declares (catalog.tables.map fun table => spelling.member table.name)
    (written.fields.map (·.1))
  fieldConstants : List.Forall₂ (fun table declared =>
    Identifier.Declares (table.fields.keys.map spelling.constant) (declared.2.map (·.1)))
    catalog.tables written.fields
  rows : Identifier.Declares (catalog.tables.map fun table => spelling.record table.name)
    (written.rows.map (·.1))
  accessors : written.accessors.map (·.record) = written.rows.map (·.1)
  members : List.Forall₂ (fun table declared =>
    Identifier.Declares (table.storableFields.map fun field => spelling.member field.1)
      (declared.2.map (·.identifier)))
    catalog.tables written.rows

section Names

variable (catalog : Catalog) (spelling : Spelling)

/-- The text of a module is read back as what the catalog writes. -/
theorem read?_moduleTextIn_of_catalog :
    WrittenModule.read? (catalog.moduleTextIn spelling) =
      some (.ofCatalog catalog spelling) :=
  catalog.read?_moduleTextIn spelling fun _ declared =>
    Catalog.isValid_of_mem_tableNamesIn declared

/-- What relates each table to its part of a module relates all of them in order. -/
theorem forall₂_tables {α : Type} {relation : TypeInfo → α → Prop} {written : TableNames → α}
    (related : ∀ names ∈ catalog.tableNamesIn spelling, relation names.table (written names)) :
    List.Forall₂ relation catalog.tables ((catalog.tableNamesIn spelling).map written) := by
  rw [← catalog.map_table_tableNamesIn spelling, List.forall₂_map_left_iff,
    List.forall₂_map_right_iff, List.forall₂_same]
  exact related

/-- The module of a catalog declares its names. -/
theorem declaresNames_ofCatalog :
    (WrittenModule.ofCatalog catalog spelling).DeclaresNames catalog spelling := by
  have constants := catalog.declares_tableIdentifiers spelling.isValid_constant
  have modules := catalog.declares_tableIdentifiers spelling.isValid_member
  have records := catalog.declares_tableIdentifiers spelling.isValid_record
  rw [← Catalog.map_constant_tableNamesIn] at constants
  rw [← Catalog.map_fieldModule_tableNamesIn] at modules
  rw [← Catalog.map_record_tableNamesIn] at records
  constructor
  case tables => simpa [WrittenModule.ofCatalog, Function.comp_def] using constants
  case fieldTypes => simp [WrittenModule.ofCatalog]
  case fieldModules => simpa [WrittenModule.ofCatalog, Function.comp_def] using modules
  case fieldConstants =>
    refine forall₂_tables catalog spelling fun names declared => ?_
    have constants := names.table.declares_fieldConstants spelling
    rw [← Catalog.fieldConstants_of_mem_tableNamesIn declared] at constants
    simpa [Function.comp_def] using constants
  case rows => simpa [WrittenModule.ofCatalog, Function.comp_def] using records
  case accessors => simp [WrittenModule.ofCatalog]
  case members =>
    refine forall₂_tables catalog spelling fun names declared => ?_
    have members := names.table.declares_members spelling
    rw [← Catalog.members_of_mem_tableNamesIn declared] at members
    simpa [Function.comp_def, WrittenMember.ofMember] using members

end Names

/-- Whatever texts a spelling makes of names, the text of a generated module declares valid
identifiers that are distinct in each scope. The search for a free number always ends, at the
first one. -/
theorem module_declares_names (catalog : Catalog) (spelling : Spelling) :
    (∃ written, WrittenModule.read? (catalog.moduleTextIn spelling) = some written ∧
      written.DeclaresNames catalog spelling) ∧
    ∀ (identifier : Identifier) (taken : List Identifier), identifier ∈ taken →
      ∃ number ≤ taken.length + 2, identifier.IsFirstFree taken number ∧
        identifier.unlike taken = identifier.numbered number := by
  refine ⟨⟨_, read?_moduleTextIn_of_catalog catalog spelling,
    declaresNames_ofCatalog catalog spelling⟩, ?_⟩
  intro identifier taken isTaken
  obtain ⟨number, bounded, isFirst⟩ := identifier.exists_isFirstFree taken
  exact ⟨number, bounded, isFirst, Identifier.unlike_of_mem isTaken isFirst⟩

/-! ## The denoted catalog -/

/-- The type that a written one evaluates to. The helper of the catalog function collects pairs
into a map, one after another. -/
def WrittenType.value (written : WrittenType) : TypeInfo :=
  ⟨written.name, written.kind, .ofList written.fields, .ofList written.inputFields⟩

namespace WrittenModule

/-- The catalog that the catalog function evaluates to. -/
def catalog (written : WrittenModule) : Catalog := .ofTypes (written.types.map (·.value))

/-- The text that the constant of an accessor holds. -/
def tableOf? (written : WrittenModule) (accessor : WrittenAccessor) : Option String :=
  (written.tables.find? fun constant => constant.1 = accessor.constant).map (·.2)

end WrittenModule

/-- A written type has the value of the type. -/
theorem value_ofType (type : TypeInfo) : (WrittenType.ofType type).value = type := by
  obtain ⟨name, kind, fields, inputFields⟩ := type
  simp only [WrittenType.value, WrittenType.ofType, OrderedMap.ofList_entries]

/-- A catalog of types holds them under their names. -/
theorem keyedByName_ofTypes (types : List TypeInfo) : (Catalog.ofTypes types).KeyedByName := by
  rintro ⟨key, type⟩ mem
  have given := (Keyed.mem_entries_ofList_iff _ key type).mp mem
  have isGiven : (key, type) ∈ (types.map fun type => (type.name, type)).reverse := by
    rw [Keyed.lastGiven] at given
    exact Keyed.mem_of_lookup? given
  rw [List.mem_reverse, List.mem_map] at isGiven
  obtain ⟨_, -, same⟩ := isGiven
  cases same
  rfl

/-- The catalog of the types of a catalog is the same, if they are stored under their names. -/
theorem ofTypes_allTypes {catalog : Catalog} (keyed : catalog.KeyedByName) :
    Catalog.ofTypes catalog.allTypes = catalog := by
  have sameEntries : (catalog.allTypes.map fun type => (type.name, type)) =
      catalog.types.entries := by
    rw [Catalog.allTypes, SortedMap.values, List.map_map]
    have unchanged : ∀ entry ∈ catalog.types.entries, (entry.2.name, entry.2) = entry :=
      fun entry mem => Prod.ext (keyed entry mem).symm rfl
    exact (List.map_congr_left unchanged).trans (List.map_id _)
  have sameTypes : SortedMap.ofList catalog.types.entries = catalog.types :=
    SortedMap.ext (Keyed.entries_ofList_of_ascending catalog.types.ascending)
  rw [Catalog.ofTypes, sameEntries, sameTypes]

/-- Among distinct constants, each is found with its own field. -/
theorem find?_of_nodup {entries : List (Identifier × String)}
    (distinct : (entries.map (·.1)).Nodup) {entry : Identifier × String} (mem : entry ∈ entries) :
    entries.find? (fun other => other.1 = entry.1) = some entry := by
  induction entries with
  | nil => cases mem
  | cons first others ih =>
      rw [List.map_cons, List.nodup_cons] at distinct
      rcases List.mem_cons.mp mem with rfl | inOthers
      · simp
      · have differs : first.1 ≠ entry.1 := fun same =>
          distinct.1 (same ▸ List.mem_map_of_mem inOthers)
        simpa [differs] using ih distinct.2 inOthers

/-- A table of a catalog is found under its name. -/
theorem find_of_mem_tables {catalog : Catalog} (keyed : catalog.KeyedByName) {table : TypeInfo}
    (mem : table ∈ catalog.tables) (schema : String) :
    Accessor.find ⟨catalog, schema⟩ table.name = .ok ⟨⟨catalog, schema⟩, table⟩ := by
  obtain ⟨inTypes, isTable⟩ := List.mem_filter.mp mem
  obtain ⟨⟨key, type⟩, isEntry, rfl⟩ := List.mem_map.mp inTypes
  have sameKey : key = type.name := keyed _ isEntry
  have found : catalog.lookupType? type.name = some type := by
    rw [← sameKey]
    exact (Keyed.lookup?_eq_some_iff (Keyed.nodup_keys catalog.types) _ _).mpr isEntry
  simp only [Accessor.find, Scope.lookupTable, Catalog.lookupTable, found, isTable, if_true]
  rfl

/-- A module denotes a catalog: its catalog function evaluates to the catalog, its constants hold
the names and the fields of the tables, the members of its rows are renamed to the stored fields,
and the accessor for a table looks up what the catalog has under a name that is the table's. -/
structure WrittenModule.Denotes (written : WrittenModule) (source : Catalog) : Prop where
  catalog : written.catalog = source
  tables : written.tables.map (·.2) = source.tables.map (·.name)
  fields : written.fields.map (fun constants => constants.2.map (·.2)) =
    source.tables.map (·.fields.keys)
  fieldTypes : written.fieldTypes.map (·.2) = source.tables.map (·.fields.entries)
  rows : written.rows.map (fun row => row.2.map (·.rename)) =
    source.tables.map fun table => table.storableFields.map (·.1)
  accessors : List.Forall₂ (fun table accessor => accessor.implemented = accessor.record ∧
    ∃ name, written.tableOf? accessor = some name ∧
      ∀ schema, Accessor.find ⟨written.catalog, schema⟩ name =
        .ok ⟨⟨written.catalog, schema⟩, table⟩) source.tables written.accessors

/-- The module of a catalog denotes it. -/
theorem denotes_ofCatalog {catalog : Catalog} (keyed : catalog.KeyedByName)
    (spelling : Spelling) : (WrittenModule.ofCatalog catalog spelling).Denotes catalog := by
  have tables := catalog.map_table_tableNamesIn spelling
  have ofTables {α : Type} (part : TypeInfo → α) (given : TableNames → α)
      (same : ∀ names ∈ catalog.tableNamesIn spelling, given names = part names.table) :
      (catalog.tableNamesIn spelling).map given = catalog.tables.map part := by
    rw [← tables, List.map_map]
    exact List.map_congr_left same
  have evaluates : (WrittenModule.ofCatalog catalog spelling).catalog = catalog := by
    have values : ((catalog.allTypes.map WrittenType.ofType).map (·.value)) = catalog.allTypes := by
      simp [List.map_map, Function.comp_def, value_ofType]
    exact (congrArg Catalog.ofTypes values).trans (ofTypes_allTypes keyed)
  refine ⟨evaluates, ?_, ?_, ?_, ?_, ?_⟩
  · rw [WrittenModule.ofCatalog, List.map_map]
    exact ofTables _ _ fun _ _ => rfl
  · rw [WrittenModule.ofCatalog, List.map_map]
    refine ofTables _ _ fun names declared => ?_
    have keys := names.table.map_fst_fieldConstants spelling
    rw [← Catalog.fieldConstants_of_mem_tableNamesIn declared] at keys
    simpa [Function.comp_def] using keys
  · rw [WrittenModule.ofCatalog, List.map_map]
    exact ofTables _ _ fun _ _ => rfl
  · rw [WrittenModule.ofCatalog, List.map_map]
    refine ofTables _ _ fun names declared => ?_
    have fields := congrArg (List.map (·.1)) (names.table.map_field_members spelling)
    rw [← Catalog.members_of_mem_tableNamesIn declared, List.map_map] at fields
    simpa [Function.comp_def, WrittenMember.ofMember] using fields
  · refine forall₂_tables catalog spelling fun names declared => ?_
    refine ⟨rfl, names.table.name, ?_, ?_⟩
    · have distinct := (declaresNames_ofCatalog catalog spelling).tables.distinct.of_map
      have isConstant : (names.constant, names.table.name) ∈
          (WrittenModule.ofCatalog catalog spelling).tables :=
        List.mem_map_of_mem (f := fun names : TableNames => (names.constant, names.table.name))
          declared
      have found := find?_of_nodup distinct isConstant
      exact congrArg (Option.map (·.2)) found
    · have isTable : names.table ∈ catalog.tables := tables ▸ List.mem_map_of_mem declared
      rw [evaluates]
      exact find_of_mem_tables keyed isTable

/-- The text of a module that is generated for a catalog denotes that catalog. -/
theorem module_denotes_catalog (catalog : Catalog) (spelling : Spelling)
    (keyed : catalog.KeyedByName) :
    ∃ written, WrittenModule.read? (catalog.moduleTextIn spelling) = some written ∧
      written.Denotes catalog :=
  ⟨_, read?_moduleTextIn_of_catalog catalog spelling, denotes_ofCatalog keyed spelling⟩

/-- Names that hold marks, escapes and letters beyond ASCII are read back, too. -/
theorem module_denotes_quoted_names :
    let note : TypeInfo := ⟨"a\"b\\c\n\x00", .table,
      .ofList [("", .id), ("\t'", .dateTime), ("\u00e9\u2028", .relation)], .empty⟩
    let kind : TypeInfo := ⟨"Kind", .reference, .ofList [("name", .string)],
      .ofList [("self", .json), ("crate", .unknown)]⟩
    let catalog : Catalog := .ofTypes [note, kind]
    catalog.KeyedByName ∧
      ∃ written, WrittenModule.read? (catalog.moduleTextIn .standard) = some written ∧
        written.Denotes catalog := by
  intro note kind catalog
  have keyed : catalog.KeyedByName := keyedByName_ofTypes [note, kind]
  exact ⟨keyed, module_denotes_catalog catalog .standard keyed⟩

end Generated

end CatalogSql
