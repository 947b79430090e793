import CatalogSql.Configuration.Directory
import CatalogSql.Proofs.Json.Decoded

/-!
# Loaded configurations

A configuration is read twice, first for its version and then as a whole. Both readings find
the same version, so what is loaded is of the current version. What is loaded depends on the
text of one file, and not on the names that the file is shown under.
-/

namespace CatalogSql

open Json (Decoder Finish Key Node)

/-- A text is read exactly if it lies in the file. -/
theorem Directory.read_eq_ok_iff {directory : Directory} {path : Path} {text : String} :
    directory.read path = .ok text ↔ directory.file? path = some (.text text) := by
  rw [read]
  split <;> grind

namespace Configuration

variable {node : Node} {version : UInt32} {configuration : Configuration}

/-! ## Two readings of one version -/

/-- Only the field of the version puts one into a draft. -/
theorem version_of_read {field : Decoder.Field Draft} (isField : field ∈ record.fields)
    (other : field.name ≠ "version") {draft next : Draft}
    (reads : field.read .text node draft = .ok next) : next.version = draft.version := by
  simp only [record, List.mem_cons, List.not_mem_nil, or_false] at isField
  rcases isField with rfl | rfl | rfl | rfl | rfl
  · exact absurd rfl other
  all_goals
    obtain ⟨value, -, rfl⟩ := map_eq_ok_iff.mp reads
    rfl

/-- The narrow reading finds the version the whole reading finds. -/
theorem version_of_readMembers {members : List (Key × Node)} {draft last : Draft}
    {given : Option UInt32}
    (narrow : versionRecord.readMembers .text members draft.version = .ok given)
    (whole : record.readMembers .text members draft = .ok last) : last.version = given := by
  induction members generalizing draft with
  | nil =>
      cases narrow
      cases whole
      rfl
  | cons member rest ih =>
      obtain ⟨name, isName, narrow⟩ := Decoder.Record.readMembers_cons_eq_ok_iff.mp narrow
      obtain ⟨again, isAgain, whole⟩ := Decoder.Record.readMembers_cons_eq_ok_iff.mp whole
      obtain rfl : name = again := Except.ok.inj (isName.symm.trans isAgain)
      by_cases isVersion : name = "version"
      · -- Both readings take the version from this node.
        subst isVersion
        obtain ⟨unknown, -⟩ | ⟨_, _, ⟨⟩, -, reads, narrow⟩ := narrow
        · cases unknown
        · obtain ⟨unknown, -⟩ | ⟨_, _, ⟨⟩, -, rereads, whole⟩ := whole
          · cases unknown
          · obtain ⟨value, counted, rfl⟩ := map_eq_ok_iff.mp reads
            obtain ⟨again, recounted, rfl⟩ := map_eq_ok_iff.mp rereads
            obtain rfl : value = again := Except.ok.inj (counted.symm.trans recounted)
            exact ih narrow whole
      · have unknown : versionRecord.fields.find? (·.name == name) = none := by
          simp [versionRecord, Decoder.Field.of, Ne.symm isVersion]
        obtain ⟨-, -, narrow⟩ | ⟨_, _, found, -⟩ := narrow
        · obtain ⟨-, -, whole⟩ | ⟨field, next, found, -, reads, whole⟩ := whole
          · exact ih narrow whole
          · have named : field.name = name := by simpa using List.find?_some found
            have kept : next.version = draft.version :=
              version_of_read (List.mem_of_find?_eq_some found) (named ▸ isVersion) reads
            exact ih (kept ▸ narrow) whole
        · rw [unknown] at found
          cases found

/-- A complete configuration has the version that was read. -/
theorem version_of_complete {draft : Draft} (complete : record.complete draft = .ok configuration) :
    draft.version = some configuration.version := by
  obtain ⟨version, isVersion, complete⟩ := bind_eq_ok_iff.mp complete
  obtain ⟨connection, -, complete⟩ := bind_eq_ok_iff.mp complete
  obtain ⟨introspection, -, complete⟩ := bind_eq_ok_iff.mp complete
  cases complete
  exact Decoder.required_eq_ok_iff.mp isVersion

/-- A list is too long to be read for its version or too short to be read as a whole. -/
theorem not_decoder_list {level start stop : Nat} {nodes : List Node} {finish : Finish}
    (narrow : versionRecord.decoder .text (.list level start stop nodes finish) = .ok version)
    (whole : decoder .text (.list level start stop nodes finish) = .ok configuration) : False := by
  obtain ⟨_, -, narrow⟩ := bind_eq_ok_iff.mp narrow
  obtain ⟨⟨given, left⟩, isGiven, narrow⟩ := bind_eq_ok_iff.mp narrow
  obtain ⟨_, isEnd, -⟩ := bind_eq_ok_iff.mp narrow
  obtain ⟨_, -, whole⟩ := bind_eq_ok_iff.mp whole
  obtain ⟨drafted, isDrafted, -⟩ := bind_eq_ok_iff.mp whole
  match nodes with
  | [] => cases finish <;> cases isGiven
  | [only] =>
      obtain ⟨_, -, isDrafted⟩ := bind_eq_ok_iff.mp isDrafted
      cases finish <;> cases isDrafted
  | first :: second :: rest =>
      obtain ⟨_, -, isGiven⟩ := bind_eq_ok_iff.mp isGiven
      cases isGiven
      cases isEnd

/-- Both readings of a node find the same version. -/
theorem version_of_decoder (narrow : versionRecord.decoder .text node = .ok version)
    (whole : decoder .text node = .ok configuration) : configuration.version = version := by
  cases node with
  | object level start stop members finish =>
      obtain ⟨_, -, narrow⟩ := bind_eq_ok_iff.mp narrow
      obtain ⟨given, isGiven, narrow⟩ := bind_eq_ok_iff.mp narrow
      obtain ⟨_, -, narrow⟩ := bind_eq_ok_iff.mp narrow
      obtain ⟨_, -, whole⟩ := bind_eq_ok_iff.mp whole
      obtain ⟨draft, isDraft, whole⟩ := bind_eq_ok_iff.mp whole
      obtain ⟨_, -, whole⟩ := bind_eq_ok_iff.mp whole
      have same : draft.version = given := version_of_readMembers isGiven isDraft
      have isVersion : given = some version :=
        Decoder.required_eq_ok_iff.mp (mapError_eq_ok_iff.mp narrow)
      have complete : draft.version = some configuration.version :=
        version_of_complete (mapError_eq_ok_iff.mp whole)
      exact Option.some.inj (complete.symm.trans (same.trans isVersion))
  | list level start stop nodes finish => exact (not_decoder_list narrow whole).elim
  | null | boolean | number | string | dubious | broken => cases narrow

/-! ## What is loaded -/

variable {text : String}

/-- A configuration is read from a text of the current version only. -/
theorem ofText_eq_ok_iff {shownFile : String} :
    ofText shownFile text = .ok configuration ↔
      Json.decodeText versionRecord.decoder text = .ok currentVersion ∧
        Json.decodeText decoder text = .ok configuration := by
  rw [ofText]
  split
  · simp_all
  · rename_i version isVersion
    by_cases isCurrent : version = currentVersion
    · simp [isCurrent, isVersion, mapError_eq_ok_iff]
    · simp [isCurrent, isVersion]

variable {directory after : Directory} {folder : Path} {shownFolder : String}

/-- A configuration is loaded from its file if the text has the current version. -/
theorem load_eq_ok_iff :
    load directory folder shownFolder = .ok configuration ↔
      ∃ text, directory.file? (folder ++ [fileName]) = some (.text text) ∧
        Json.decodeText versionRecord.decoder text = .ok currentVersion ∧
        Json.decodeText decoder text = .ok configuration := by
  simp only [load, ← Directory.read_eq_ok_iff]
  split
  · simp_all
  · simp_all [ofText_eq_ok_iff]

/-- A loaded configuration is of the current version. -/
theorem version_of_load (loaded : load directory folder shownFolder = .ok configuration) :
    configuration.version = currentVersion := by
  obtain ⟨text, -, narrow, whole⟩ := load_eq_ok_iff.mp loaded
  exact version_of_decoder (Json.decodeText_eq_ok_iff.mp narrow).1
    (Json.decodeText_eq_ok_iff.mp whole).1

/-- The same configuration is loaded as long as its file stays. -/
theorem load_of_file?_eq (loaded : load directory folder shownFolder = .ok configuration)
    (stays : after.file? (folder ++ [fileName]) = directory.file? (folder ++ [fileName]))
    (shownAfter : String) : load after folder shownAfter = .ok configuration := by
  obtain ⟨text, isText, decoded⟩ := load_eq_ok_iff.mp loaded
  exact load_eq_ok_iff.mpr ⟨text, stays.trans isText, decoded⟩

end Configuration

end CatalogSql
