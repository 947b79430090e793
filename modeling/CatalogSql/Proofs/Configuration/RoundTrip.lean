import CatalogSql.Configuration.Directory
import CatalogSql.Proofs.Configuration.Coding
import CatalogSql.Proofs.Configuration.Loading

/-!
# A saved configuration is loaded

What is saved in a folder is loaded from it as it was. A configuration of another version than
the current one is refused for its version.
-/

namespace CatalogSql

open Json (Decodes Fills)

/-! ## The numbers of a configuration -/

/-- A secret holds natural numbers only. -/
theorem Secret.hasNaturals (secret : Secret) : secret.toJson.HasNaturals := by
  cases secret <;> simp [toJson, Json.HasNaturals, Json.EntriesHaveNaturals]

/-- Fields hold natural numbers only. -/
theorem Fields.hasNaturals (fields : Fields) : (Fields.toJson fields).HasNaturals :=
  Json.hasNaturals_object (List.forall_mem_map.mpr fun _ _ => trivial)

/-- A type holds natural numbers only. -/
theorem TypeInfo.hasNaturals (type : TypeInfo) : type.toJson.HasNaturals := by
  have fields := Fields.hasNaturals type.fields
  have inputFields := Fields.hasNaturals type.inputFields
  by_cases empty : type.inputFields.isEmpty <;>
    simp [toJson, Json.HasNaturals, Json.EntriesHaveNaturals, empty, fields, inputFields]

/-- A catalog holds natural numbers only. -/
theorem Catalog.hasNaturals (catalog : Catalog) : catalog.toJson.HasNaturals :=
  Json.hasNaturals_object (List.forall_mem_map.mpr fun entry _ => entry.2.hasNaturals)

/-- The pool settings hold natural numbers only. -/
theorem PoolSettings.hasNaturals (settings : PoolSettings) : settings.toJson.HasNaturals := by
  have seconds : ∀ time : Option UInt64, (secondsJson time).HasNaturals := by
    intro time
    cases time with
    | none => trivial
    | some value =>
        have bounded := value.toNat_lt
        exact ⟨by omega, by omega⟩
  have count := settings.maxConnections.toNat_lt
  have timeout := settings.acquireTimeout.toNat_lt
  exact ⟨⟨by omega, by omega⟩, ⟨by omega, by omega⟩, seconds _, seconds _, trivial⟩

/-- The connection settings hold natural numbers only. -/
theorem ConnectionSettings.hasNaturals (settings : ConnectionSettings) :
    settings.toJson.HasNaturals :=
  ⟨settings.uri.hasNaturals, trivial, trivial⟩

/-- The introspection settings hold natural numbers only. -/
theorem IntrospectionSettings.hasNaturals (settings : IntrospectionSettings) :
    settings.toJson.HasNaturals := by
  have token : ∀ entry ∈ (settings.bearerToken.map fun token =>
      ("bearerToken", token.toJson)).toList, entry.2.HasNaturals := by
    cases settings.bearerToken with
    | none => exact List.forall_mem_nil _
    | some token => exact List.forall_mem_singleton.mpr token.hasNaturals
  refine Json.hasNaturals_object (List.forall_mem_cons.mpr ⟨settings.endpoint.hasNaturals, ?_⟩)
  exact List.forall_mem_append.mpr ⟨token, List.forall_mem_singleton.mpr trivial⟩

namespace Configuration

/-- A configuration holds natural numbers only. -/
theorem hasNaturals (configuration : Configuration) : configuration.toJson.HasNaturals := by
  have version : (Json.integer configuration.version.toNat).HasNaturals := by
    have bounded := configuration.version.toNat_lt
    exact ⟨by omega, by omega⟩
  have front : ∀ entry ∈ [("version", Json.integer configuration.version.toNat),
      ("connectionSettings", configuration.connection.toJson),
      ("introspection", configuration.introspection.toJson)], entry.2.HasNaturals := by
    simp [version, configuration.connection.hasNaturals, configuration.introspection.hasNaturals]
  have pool : ∀ entry ∈ (if configuration.pool = .standard then []
      else [("poolSettings", configuration.pool.toJson)]), entry.2.HasNaturals := by
    by_cases isStandard : configuration.pool = .standard <;>
      simp [isStandard, configuration.pool.hasNaturals]
  have catalog : ∀ entry ∈ [("catalog", configuration.catalog.toJson)], entry.2.HasNaturals :=
    List.forall_mem_singleton.mpr configuration.catalog.hasNaturals
  exact Json.hasNaturals_object
    (List.forall_mem_append.mpr ⟨front, List.forall_mem_append.mpr ⟨pool, catalog⟩⟩)

/-! ## Texts of configurations -/

/-- The version is read whatever else a configuration holds. -/
theorem decodes_version (configuration : Configuration) :
    Decodes 1 versionRecord.decoder configuration.toJson configuration.version := by
  have front : Fills 0 versionRecord
      [("version", .integer configuration.version.toNat),
        ("connectionSettings", configuration.connection.toJson),
        ("introspection", configuration.introspection.toJson)] none
      (some configuration.version) :=
    .of rfl rfl (PoolSettings.decodes_count configuration.version) <|
      .other rfl <| .other rfl (.nil _)
  have pool : Fills 0 versionRecord (if configuration.pool = .standard then []
      else [("poolSettings", configuration.pool.toJson)]) (some configuration.version)
      (some configuration.version) := by
    by_cases isStandard : configuration.pool = .standard
    · rw [if_pos isStandard]
      exact .nil _
    · rw [if_neg isStandard]
      exact .other rfl (.nil _)
  have catalog : Fills 0 versionRecord [("catalog", configuration.catalog.toJson)]
      (some configuration.version) (some configuration.version) := .other rfl (.nil _)
  exact (front.append (pool.append catalog)).decodes rfl

/-- The text of a configuration is read as the configuration, or refused for the version. -/
theorem ofText_fileText (configuration : Configuration) (shownFile : String) :
    ofText shownFile configuration.fileText =
      if configuration.version = currentVersion then .ok configuration
      else .error (.unsupportedVersion shownFile configuration.version) := by
  have version := configuration.decodes_version.decodeText (by decide) configuration.hasNaturals
  have whole := configuration.decodes.decodeText (by decide) configuration.hasNaturals
  rw [ofText, fileText, version]
  by_cases isCurrent : configuration.version = currentVersion
  · simp only [isCurrent, ne_eq, not_true_eq_false, if_false, if_true]
    rw [whole]
    rfl
  · simp [isCurrent]

end Configuration

/-! ## Directories -/

namespace Path

/-- The files of one folder differ in their names only. -/
theorem exists_front (folder : Path) : ∃ front, ∀ name, Path.text (folder ++ [name]) =
    front ++ name := by
  induction folder with
  | nil => exact ⟨"", fun name => by simp [text]⟩
  | cons first rest ih =>
      obtain ⟨front, shape⟩ := ih
      refine ⟨first ++ "/" ++ front, fun name => ?_⟩
      have later := shape name
      rw [String.append_assoc, ← later]
      cases rest <;> simp [text, String.intercalate_cons_cons]

/-- Different files of a folder have different paths. -/
theorem text_ne {folder : Path} {first second : String} (differ : first ≠ second) :
    Path.text (folder ++ [first]) ≠ Path.text (folder ++ [second]) := by
  obtain ⟨front, shape⟩ := exists_front folder
  rw [shape, shape]
  exact fun same => differ ((String.append_right_inj front).mp same)

end Path

namespace Directory

variable {directory after : Directory} {path : Path} {value : String}

/-- Writing a file leaves files of another path as they were. -/
theorem file?_write (written : directory.write path value = .ok after) (other : Path) :
    after.file? other =
      if other.text = path.text then some (.text value) else directory.file? other := by
  rw [write] at written
  split at written
  · cases written
  · split at written
    · cases written
    · cases written
      exact SortedMap.get?_insert directory.files path.text (.text value) other.text

end Directory

namespace Configuration

variable {configuration : Configuration} {directory after : Directory} {folder : Path}

/-- A configuration lies in its file after it has been saved, even if its schema could not be
written; if it could not be written itself, nothing has been. -/
theorem save_cases (configuration : Configuration) (directory : Directory) (folder : Path) :
    (∃ error, configuration.save directory folder = (.error error, directory)) ∨
      (configuration.save directory folder).2.file? (folder ++ [fileName]) =
        some (.text configuration.fileText) := by
  rw [save]
  split
  · exact .inl ⟨_, rfl⟩
  · split
    · exact .inl ⟨_, rfl⟩
    · rename_i between first
      have written : between.file? (folder ++ [fileName]) =
          some (.text configuration.fileText) := by
        rw [Directory.file?_write first, if_pos rfl]
      refine .inr ?_
      split
      · exact written
      · rename_i last second
        rw [Directory.file?_write second, if_neg (Path.text_ne (by decide)), written]

/-- A saved configuration lies in its file. -/
theorem file?_save (saved : configuration.save directory folder = (.ok (), after)) :
    after.file? (folder ++ [fileName]) = some (.text configuration.fileText) := by
  rcases save_cases configuration directory folder with ⟨error, failed⟩ | written
  · rw [saved] at failed
    cases failed
  · rwa [saved] at written

/-- A configuration of the current version is loaded from its file. -/
theorem load_of_file? (isCurrent : configuration.version = currentVersion)
    (isText : directory.file? (folder ++ [fileName]) = some (.text configuration.fileText))
    (shownFolder : String) : load directory folder shownFolder = .ok configuration := by
  rw [load, Directory.read_eq_ok_iff.mpr isText]
  simp only [ofText_fileText, isCurrent, if_true]

/-- A configuration of the current version is loaded from where it has been saved; one of another
version is refused for its version. -/
theorem load_of_save (configuration : Configuration) (directory after : Directory)
    (folder : Path) (saved : configuration.save directory folder = (.ok (), after))
    (shownFolder : String) :
    load after folder shownFolder =
      if configuration.version = currentVersion then .ok configuration
      else .error (.unsupportedVersion (Path.shown shownFolder fileName)
        configuration.version) := by
  rw [load, Directory.read_eq_ok_iff.mpr (file?_save saved)]
  exact configuration.ofText_fileText _

/-- Names under other keys, empty texts, escapes, fields that do not ascend and times without limit
are loaded as they were. -/
theorem load_of_save_quoted :
    let configuration : Configuration :=
      ⟨1, ⟨.plain "postgres://\"a\\b\"\n", ""⟩, ⟨.ofVariable "ENDPOINT", some (.plain ""), "Node"⟩,
        ⟨7, 30, none, some 0⟩,
        ⟨.ofList [("Key", ⟨"", .table, .ofList [("b", .id), ("a", .relation)],
          .ofList [("z", .json), ("", .unknown)]⟩)]⟩⟩
    ∃ after, configuration.save .empty ["conf"] = (.ok (), after) ∧
      load after ["conf"] "conf" = .ok configuration := by
  intro configuration
  have saved : ∃ after, configuration.save .empty ["conf"] = (.ok (), after) := by
    simp [save, Directory.makeDirectories, Directory.write, Directory.blocked, Directory.isDirectory,
      Directory.file?, Directory.empty, SortedMap.get?, SortedMap.keys, Keyed.lookup?, Path.text,
      Keyed.putSorted, Keyed.keys, List.range_succ, fileName, schemaFileName]
  obtain ⟨after, saved⟩ := saved
  exact ⟨after, saved, configuration.load_of_save .empty after ["conf"] saved "conf"⟩

end Configuration

end CatalogSql
