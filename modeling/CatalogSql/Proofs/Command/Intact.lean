import CatalogSql.Command.Run
import CatalogSql.Proofs.Configuration.RoundTrip

/-!
# Commands keep the configuration

Commands are run one after another on a directory. Whatever their environments and networks are,
a configuration is not set up over another one, an introspection replaces the catalog or fails
and changes nothing, and the other commands leave the files of the configuration alone. What
commands make of an empty directory is therefore a configuration with the settings it was set up
with, or none.
-/

namespace CatalogSql

namespace Directory

variable {directory after : Directory}

/-- Placing a file writes it, and leaves files of another path as they were. -/
theorem file?_place {folder : Path} {file content : String}
    (placed : directory.place folder file content = .ok after) (other : Path) :
    after.file? other =
      if other.text = (Path.resolve folder file).text then some (.text content)
      else directory.file? other := by
  obtain ⟨_, -, placed⟩ := bind_eq_ok_iff.mp placed
  by_cases isFolder : Path.endsInSlash file
  · rw [if_pos isFolder] at placed
    cases placed
  · rw [if_neg isFolder] at placed
    exact file?_write placed other

/-- A file is written where no file lies on the way to it and none lies below it. -/
theorem write_of_free {path : Path} {value : String} {keys : List String}
    (isKeys : directory.files.keys = keys) (free : directory.blocked path = false)
    (noDirectory : (path.isEmpty ||
      keys.any fun key => (path.text ++ "/").toList.isPrefixOf key.toList) = false) :
    directory.write path value = .ok ⟨directory.files.insert path.text (.text value)⟩ := by
  rw [← isKeys] at noDirectory
  rw [write, free, if_neg Bool.false_ne_true, isDirectory, noDirectory, if_neg Bool.false_ne_true]

end Directory

/-- A client that is given the bodies of its replies, and gets them one after another. -/
def HttpClient.replaying : HttpClient (List String) where
  send request bodies :=
    match bodies with
    | [] => (.error (.unsent request.url []), [])
    | body :: rest => (.ok ⟨200, body⟩, rest)

namespace Configuration

variable {directory : Directory} {folder : Path}

/-- The files that a configuration is saved in. -/
def files (folder : Path) : List Path := [folder ++ [fileName], folder ++ [schemaFileName]]

/-- A directory with a configuration and its schema in one folder, and nothing else. -/
def alone (configuration : Configuration) : Directory :=
  ⟨(SortedMap.empty.insert "conf/configuration.json" (.text configuration.fileText)).insert
    "conf/schema.json" (.text Schema.fileText)⟩

/-- The same directory after the module of the catalog has been generated. -/
def withModule (configuration : Configuration) : Directory :=
  ⟨configuration.alone.files.insert "work/accessors.rs"
    (.text configuration.catalog.moduleText)⟩

/-- A configuration is saved in an empty directory together with its schema. -/
theorem save_empty (configuration : Configuration) :
    configuration.save .empty ["conf"] = (.ok (), configuration.alone) := by
  unfold save
  rw [show Directory.empty.makeDirectories ["conf"] = .ok () from rfl,
    @Directory.write_of_free _ _ _ [] rfl rfl (by decide +kernel)]
  simp only
  rw [@Directory.write_of_free _ _ _ ["conf/configuration.json"] rfl rfl (by decide +kernel)]
  rfl

/-- A saved configuration is replaced by the next one. -/
theorem save_alone (old configuration : Configuration) :
    configuration.save old.alone ["conf"] = (.ok (), configuration.alone) := by
  have isKeys (one : Configuration) :
      one.alone.files.keys = ["conf/configuration.json", "conf/schema.json"] := rfl
  unfold save
  rw [show old.alone.makeDirectories ["conf"] = .ok () from rfl,
    Directory.write_of_free (isKeys old) rfl (by decide +kernel)]
  simp only
  rw [@Directory.write_of_free _ _ _ ["conf/configuration.json", "conf/schema.json"] rfl rfl
    (by decide +kernel)]
  rfl

/-- Nothing is found under the name of a folder's configuration. -/
def Absent (directory : Directory) (folder : Path) : Prop :=
  directory.exists? (folder ++ [fileName]) = .ok false

/-- The configuration that is loaded from a folder has particular settings and any catalog. -/
def Settled (settings : Configuration) (directory : Directory) (folder : Path) : Prop :=
  ∃ catalog, ∀ shownFolder, load directory folder shownFolder = .ok { settings with catalog }

/-- An empty directory has no configuration. -/
theorem absent_empty (folder : Path) : Absent .empty folder := by
  have missing : ∀ path, Directory.empty.file? path = none := fun _ => rfl
  have noFiles : Directory.empty.files.keys = [] := rfl
  simp [Absent, Directory.exists?, Directory.blocked, Directory.isDirectory, missing, noFiles]

/-- An absent configuration has no file. -/
theorem Absent.file?_eq_none (absent : Absent directory folder) :
    directory.file? (folder ++ [fileName]) = none := by
  rw [Absent, Directory.exists?] at absent
  split at absent
  · cases absent
  · simpa using (Bool.or_eq_false_iff.mp (Except.ok.inj absent)).1

/-- What lies in the file of a configuration keeps another from being set up. -/
theorem not_absent_of_load {configuration : Configuration} {shownFolder : String}
    (loaded : load directory folder shownFolder = .ok configuration) :
    ¬Absent directory folder := by
  intro absent
  obtain ⟨text, isText, -⟩ := load_eq_ok_iff.mp loaded
  rw [absent.file?_eq_none] at isText
  cases isText

/-- An introspection gives the configuration another catalog. -/
theorem of_introspect {σ : Type} {configuration introspected : Configuration}
    {environment : Environment} {client : HttpClient σ} {state after : σ}
    (introspects : configuration.introspect environment client state = (.ok introspected, after)) :
    ∃ catalog, introspected = { configuration with version := currentVersion, catalog } := by
  rw [introspect] at introspects
  split at introspects
  · rw [introspectWith] at introspects
    split at introspects
    · cases introspects
      exact ⟨_, rfl⟩
    · cases introspects
  · cases introspects

end Configuration

namespace Command

open CatalogSql.Configuration (Absent Settled files load)

variable {σ : Type}

/-! ## Single commands -/

section Single

variable {context : CommandContext σ} {directory : Directory} {state : σ}

/-- Setting up fails where there is something already, and changes nothing. -/
theorem runSetUp_of_not_absent (present : ¬Absent directory context.folder) :
    ∃ error, runSetUp context directory = (.error error, directory) := by
  rw [runSetUp]
  split
  · exact ⟨_, rfl⟩
  · exact ⟨_, rfl⟩
  · rename_i absent
    exact absurd absent present

/-- Setting up leaves the directory as it was, or writes the initial configuration where there was
none. -/
theorem runSetUp_cases (context : CommandContext σ) (directory : Directory) :
    (runSetUp context directory).2 = directory ∨
      Absent directory context.folder ∧
        (runSetUp context directory).2.file? (context.folder ++ [Configuration.fileName]) =
          some (.text Configuration.initial.fileText) := by
  rw [runSetUp]
  split
  · exact .inl rfl
  · exact .inl rfl
  · rename_i absent
    rcases Configuration.initial.save_cases directory context.folder with ⟨error, failed⟩ | written
    · exact .inl (congrArg Prod.snd failed)
    · exact .inr ⟨absent, written⟩

/-- An introspection fails and leaves the directory as it was, or it saves the loaded configuration
with another catalog. -/
theorem runIntrospect_cases (context : CommandContext σ) (directory : Directory) (state : σ) :
    (∃ error later, runIntrospect context directory state = (.error error, directory, later)) ∨
    ∃ (configuration : Configuration) (catalog : Catalog) (saved : Except FileError Unit)
        (after : Directory) (later : σ),
      load directory context.folder context.shownFolder = .ok configuration ∧
      Configuration.save { configuration with catalog } directory context.folder =
        (saved, after) ∧
      runIntrospect context directory state = (saved.mapError .unwritten, after, later) := by
  rw [runIntrospect]
  split
  · exact .inl ⟨_, _, rfl⟩
  · rename_i configuration loaded
    split
    · exact .inl ⟨_, _, rfl⟩
    · rename_i introspected later introspects
      obtain ⟨catalog, rfl⟩ := Configuration.of_introspect introspects
      rw [← Configuration.version_of_load loaded]
      exact .inr ⟨configuration, catalog, _, _, later, loaded, rfl, rfl⟩

/-- A failed introspection changes nothing unless its files could not be written. -/
theorem runIntrospect_of_error {error : CommandError} {after : Directory} {later : σ}
    (fails : runIntrospect context directory state = (.error error, after, later))
    (unlike : ∀ fault, error ≠ .unwritten fault) : after = directory := by
  rcases runIntrospect_cases context directory state with ⟨other, others, failed⟩ |
    ⟨configuration, catalog, saved, saveAfter, others, loaded, saves, introspected⟩
  · rw [failed] at fails
    cases fails
    rfl
  · rw [introspected] at fails
    cases saved with
    | error fault =>
        cases fails
        exact absurd rfl (unlike fault)
    | ok _ => cases fails

/-- A successful introspection leaves the loaded configuration with another catalog. -/
theorem runIntrospect_of_ok {after : Directory} {later : σ}
    (succeeds : runIntrospect context directory state = (.ok (), after, later)) :
    ∃ configuration catalog,
      load directory context.folder context.shownFolder = .ok configuration ∧
      ∀ shownFolder, load after context.folder shownFolder =
        .ok { configuration with catalog } := by
  rcases runIntrospect_cases context directory state with ⟨other, others, failed⟩ |
    ⟨configuration, catalog, saved, saveAfter, others, loaded, saves, introspected⟩
  · rw [failed] at succeeds
    cases succeeds
  · rw [introspected] at succeeds
    cases saved with
    | error fault => cases succeeds
    | ok _ =>
        cases succeeds
        have isCurrent := Configuration.version_of_load loaded
        have written := Configuration.file?_save saves
        exact ⟨configuration, catalog, loaded, Configuration.load_of_file? isCurrent written⟩

/-- Generating succeeds exactly if a configuration is loaded and its module placed. -/
theorem runGenerate_eq_ok_iff {output : String} {after : Directory} :
    runGenerate context output directory = .ok after ↔
      ∃ configuration, load directory context.folder context.shownFolder = .ok configuration ∧
        directory.place context.working output configuration.catalog.moduleText = .ok after := by
  rw [runGenerate]
  split
  · simp_all
  · simp_all [mapError_eq_ok_iff]

end Single

/-! ## Sequences of commands -/

/-- A command with what it is given. -/
structure Step (σ : Type) where
  command : Command
  context : CommandContext σ

namespace Step

/-- A step does not generate a module into a file of the configuration. -/
def Spares (step : Step σ) : Prop :=
  ∀ output, step.command = .generate output → ∀ file ∈ files step.context.folder,
    (Path.resolve step.context.working output).text ≠ file.text

/-- What running a step leaves. -/
def run (step : Step σ) (directory : Directory) (state : σ) : CommandResult σ :=
  step.command.run step.context directory state

end Step

/-- A step that has been run, with the directory before it and what it left. -/
structure Done (σ : Type) where
  step : Step σ
  before : Directory
  left : CommandResult σ

/-- Runs steps one after another. -/
def history : List (Step σ) → Directory → σ → List (Done σ)
  | [], _, _ => []
  | step :: rest, directory, state =>
      let left := step.run directory state
      ⟨step, directory, left⟩ :: history rest left.directory left.state

/-- What a step may do to the configuration of its folder. -/
structure Done.KeepsConfiguration (done : Done σ) : Prop where
  /-- Nothing is set up where there is something already. -/
  setUp : done.step.command = .setUp → ¬Absent done.before done.step.context.folder →
    (∃ error, done.left.result = .error error) ∧ done.left.directory = done.before
  /-- A failed introspection changes nothing, unless its files could not be written: a
  configuration may then have been written without its schema. -/
  failed : done.step.command = .introspect → ∀ error, done.left.result = .error error →
    (∀ fault, error ≠ .unwritten fault) → done.left.directory = done.before
  /-- A successful introspection replaces the catalog. -/
  introspected : done.step.command = .introspect → ∀ lines, done.left.result = .ok lines →
    ∃ configuration catalog,
      load done.before done.step.context.folder done.step.context.shownFolder =
        .ok configuration ∧
      ∀ shownFolder, load done.left.directory done.step.context.folder shownFolder =
        .ok { configuration with catalog }
  /-- Other commands leave both files alone. -/
  other : done.step.command ≠ .setUp → done.step.command ≠ .introspect →
    ∀ file ∈ files done.step.context.folder,
      done.left.directory.file? file = done.before.file? file

variable {step : Step σ} {directory after : Directory} {state : σ}

namespace Step

/-- What a step can do to a directory. -/
inductive Changes (step : Step σ) (before : Directory) : Directory → Prop where
  | nothing : Changes step before before
  | setUp {after : Directory} (isCommand : step.command = .setUp)
      (absent : Absent before step.context.folder)
      (written : after.file? (step.context.folder ++ [Configuration.fileName]) =
        some (.text Configuration.initial.fileText)) : Changes step before after
  | introspected {after : Directory} {configuration : Configuration} (catalog : Catalog)
      (isCommand : step.command = .introspect)
      (loaded : load before step.context.folder step.context.shownFolder = .ok configuration)
      (written : after.file? (step.context.folder ++ [Configuration.fileName]) =
        some (.text { configuration with catalog }.fileText)) : Changes step before after
  | generated {after : Directory} {configuration : Configuration} {output : String}
      (isCommand : step.command = .generate output)
      (loaded : load before step.context.folder step.context.shownFolder = .ok configuration)
      (placed : before.place step.context.working output configuration.catalog.moduleText =
        .ok after) : Changes step before after

/-- What a step leaves is one of its changes. -/
theorem changes (step : Step σ) (directory : Directory) (state : σ) :
    step.Changes directory (step.run directory state).directory := by
  obtain ⟨command, context⟩ := step
  cases command with
  | setUp =>
      simp only [run, Command.run]
      rcases runSetUp_cases context directory with same | ⟨absent, written⟩
      · rw [same]
        exact .nothing
      · exact .setUp rfl absent written
  | introspect =>
      rcases runIntrospect_cases context directory state with ⟨error, later, failed⟩ |
        ⟨configuration, catalog, saved, after, later, loaded, saves, introspected⟩
      · simp only [run, Command.run, failed]
        exact .nothing
      · simp only [run, Command.run, introspected]
        rcases Configuration.save_cases { configuration with catalog } directory context.folder
          with ⟨error, unsaved⟩ | written
        · obtain rfl : directory = after := congrArg Prod.snd (unsaved.symm.trans saves)
          exact .nothing
        · rw [saves] at written
          exact .introspected catalog rfl loaded written
  | generate output =>
      cases generated : runGenerate context output directory with
      | error error =>
          simp only [run, Command.run, generated]
          exact .nothing
      | ok after =>
          obtain ⟨configuration, loaded, placed⟩ := runGenerate_eq_ok_iff.mp generated
          simp only [run, Command.run, generated]
          exact .generated rfl loaded placed
  | explain table condition fields limit => exact .nothing

namespace Changes

variable {settings : Configuration}

/-- A generated module lies in another file than those of the configuration. -/
theorem file?_of_generated {output : String} {content : String} (spares : step.Spares)
    (isCommand : step.command = .generate output)
    (placed : directory.place step.context.working output content = .ok after) :
    ∀ file ∈ files step.context.folder, after.file? file = directory.file? file := by
  intro file isFile
  rw [Directory.file?_place placed, if_neg (spares output isCommand file isFile).symm]

/-- A step that spares the configuration leaves its settings. -/
theorem settled (changes : step.Changes directory after) (spares : step.Spares)
    (settled : Settled settings directory step.context.folder) :
    Settled settings after step.context.folder := by
  obtain ⟨catalog, loads⟩ := settled
  cases changes with
  | nothing => exact ⟨catalog, loads⟩
  | setUp _ absent written => exact absurd absent (Configuration.not_absent_of_load (loads ""))
  | introspected other _ loaded written =>
      obtain rfl := Except.ok.inj (loaded.symm.trans (loads _))
      have isCurrent := Configuration.version_of_load loaded
      exact ⟨other, Configuration.load_of_file? isCurrent written⟩
  | generated isCommand loaded placed =>
      have stays := file?_of_generated spares isCommand placed _ (List.mem_cons_self)
      exact ⟨catalog, Configuration.load_of_file?_eq (loads "") stays⟩

/-- A step leaves no configuration, or the initial one, where there was none. -/
theorem absent_or_settled (changes : step.Changes directory after)
    (absent : Absent directory step.context.folder) :
    Absent after step.context.folder ∨ Settled .initial after step.context.folder := by
  cases changes with
  | nothing => exact .inl absent
  | setUp _ _ written =>
      exact .inr ⟨.empty, Configuration.load_of_file? rfl written⟩
  | introspected _ _ loaded _ => exact absurd absent (Configuration.not_absent_of_load loaded)
  | generated _ loaded _ => exact absurd absent (Configuration.not_absent_of_load loaded)

end Changes

end Step

/-- A step that spares the configuration keeps it, whatever the directory. -/
theorem Step.keepsConfiguration (spares : step.Spares) (directory : Directory) (state : σ) :
    Done.KeepsConfiguration ⟨step, directory, step.run directory state⟩ where
  setUp isCommand present := by
    obtain ⟨command, context⟩ := step
    obtain rfl : command = .setUp := isCommand
    obtain ⟨error, failed⟩ := runSetUp_of_not_absent present
    simp [run, Command.run, failed, Except.map]
  failed isCommand error fails unlike := by
    obtain ⟨command, context⟩ := step
    obtain rfl : command = .introspect := isCommand
    simp only [run, Command.run] at fails ⊢
    generalize isRun : runIntrospect context directory state = ran at fails ⊢
    obtain ⟨result, after, later⟩ := ran
    cases result with
    | error cause =>
        cases fails
        exact runIntrospect_of_error isRun unlike
    | ok _ => cases fails
  introspected isCommand lines succeeds := by
    obtain ⟨command, context⟩ := step
    obtain rfl : command = .introspect := isCommand
    simp only [run, Command.run] at succeeds ⊢
    generalize isRun : runIntrospect context directory state = ran at succeeds ⊢
    obtain ⟨result, after, later⟩ := ran
    cases result with
    | error cause => cases succeeds
    | ok _ => exact runIntrospect_of_ok isRun
  other notSetUp notIntrospect := by
    have changes := step.changes directory state
    generalize step.run directory state = left at changes
    obtain ⟨result, after, later⟩ := left
    cases changes with
    | nothing => exact fun _ _ => rfl
    | setUp isCommand => exact absurd isCommand notSetUp
    | introspected _ isCommand => exact absurd isCommand notIntrospect
    | generated isCommand _ placed => exact Step.Changes.file?_of_generated spares isCommand placed

/-! ## Whole sequences -/

/-- What has been run is a step of the sequence, run on the directory that is told. -/
theorem of_mem_history {steps : List (Step σ)} {done : Done σ} :
    done ∈ history steps directory state →
      done.step ∈ steps ∧ ∃ state, done.left = done.step.run done.before state := by
  induction steps generalizing directory state with
  | nil => exact fun isDone => absurd isDone List.not_mem_nil
  | cons step rest ih =>
      intro isDone
      rcases List.mem_cons.mp isDone with rfl | later
      · exact ⟨List.mem_cons_self, state, rfl⟩
      · obtain ⟨isStep, ran⟩ := ih later
        exact ⟨List.mem_cons_of_mem _ isStep, ran⟩

/-- What every step of a sequence preserves holds after each of them. -/
theorem history_invariant (Holds : Directory → Prop) {steps : List (Step σ)}
    (preserved : ∀ step ∈ steps, ∀ {directory after}, step.Changes directory after →
      Holds directory → Holds after) (holds : Holds directory) :
    ∀ done ∈ history steps directory state, Holds done.left.directory := by
  induction steps generalizing directory state with
  | nil => exact List.forall_mem_nil _
  | cons step rest ih =>
      obtain ⟨first, others⟩ := List.forall_mem_cons.mp preserved
      have after : Holds (step.run directory state).directory :=
        first (step.changes directory state) holds
      exact List.forall_mem_cons.mpr ⟨after, ih others after⟩

/-- A generated module lies beside the configuration. -/
theorem place_alone (configuration : Configuration) :
    configuration.alone.place ["work"] "accessors.rs" configuration.catalog.moduleText =
      .ok configuration.withModule := by
  have isPath : Path.resolve ["work"] "accessors.rs" = ["work", "accessors.rs"] := by
    decide +kernel
  have isFile : Path.endsInSlash "accessors.rs" = false := by decide +kernel
  have isFree : configuration.alone.makeDirectories ["work"] = .ok () := rfl
  have written : configuration.alone.write ["work", "accessors.rs"]
      configuration.catalog.moduleText = .ok configuration.withModule :=
    @Directory.write_of_free _ _ _ ["conf/configuration.json", "conf/schema.json"] rfl rfl
      (by decide +kernel)
  rw [Directory.place, isPath, isFile]
  exact bind_eq_ok_iff.mpr ⟨(), isFree, written⟩

/-- An empty directory is set up, the catalog that a service answers with is saved, its module is
generated, and setting up once more is refused. -/
theorem history_of_answered {context : CommandContext σ} {introspected : Configuration}
    {later : σ} (working : context.working = ["work"]) (folder : context.folder = ["conf"])
    (isCurrent : introspected.version = Configuration.currentVersion)
    (answered : Configuration.initial.introspect context.environment context.client state =
      (.ok introspected, later)) :
    history [⟨.setUp, context⟩, ⟨.introspect, context⟩, ⟨.generate "accessors.rs", context⟩,
        ⟨.setUp, context⟩] .empty state =
      [⟨⟨.setUp, context⟩, .empty, ⟨.ok [], Configuration.initial.alone, state⟩⟩,
        ⟨⟨.introspect, context⟩, Configuration.initial.alone, ⟨.ok [], introspected.alone, later⟩⟩,
        ⟨⟨.generate "accessors.rs", context⟩, introspected.alone,
          ⟨.ok [], introspected.withModule, later⟩⟩,
        ⟨⟨.setUp, context⟩, introspected.withModule,
          ⟨.error (.alreadyInitialized (Path.shown context.shownFolder Configuration.fileName)),
            introspected.withModule, later⟩⟩] := by
  have loads (configuration : Configuration)
      (isCurrent : configuration.version = Configuration.currentVersion) (shownFolder : String) :
      load configuration.alone ["conf"] shownFolder = .ok configuration :=
    Configuration.load_of_file? isCurrent rfl shownFolder
  have absent : Directory.empty.exists? (["conf"] ++ [Configuration.fileName]) = .ok false := rfl
  simp only [history, Step.run, run, runSetUp, runIntrospect, runGenerate, working, folder, absent,
    Configuration.save_empty, loads .initial rfl, answered, Configuration.save_alone,
    loads introspected isCurrent, place_alone]
  rfl

section OneFolder

variable {steps : List (Step σ)} {folder : Path} {settings : Configuration}
  (onFolder : ∀ step ∈ steps, step.context.folder = folder)
  (spares : ∀ step ∈ steps, step.Spares)

include onFolder spares

/-- A configuration keeps its settings whatever steps are run in its folder. -/
theorem history_settled (settled : Settled settings directory folder) :
    ∀ done ∈ history steps directory state, Settled settings done.left.directory folder := by
  refine history_invariant (Settled settings · folder) (fun step isStep _ _ changes => ?_) settled
  obtain rfl := onFolder step isStep
  exact changes.settled (spares step isStep)

/-- Where there is no configuration, there is none or one with the initial settings afterwards. -/
theorem history_absent_or_settled (absent : Absent directory folder) :
    ∀ done ∈ history steps directory state,
      Absent done.left.directory folder ∨ Settled .initial done.left.directory folder := by
  refine history_invariant (fun reached => Absent reached folder ∨ Settled .initial reached folder)
    (fun step isStep _ _ changes => ?_) (.inl absent)
  obtain rfl := onFolder step isStep
  rintro (absent | settled)
  · exact changes.absent_or_settled absent
  · exact .inr (changes.settled (spares step isStep) settled)

end OneFolder

/-- Steps that generate no module into a file of their configuration keep it as a step should.
A configuration in their folder keeps its settings after each of them. Starting from an empty
directory there is always no configuration in their folder, or one of the current version with
the initial settings. -/
theorem history_keeps_configuration (steps : List (Step σ))
    (spares : ∀ step ∈ steps, step.Spares) (state : σ) :
    (∀ directory, ∀ done ∈ history steps directory state, done.KeepsConfiguration) ∧
      ∀ folder, (∀ step ∈ steps, step.context.folder = folder) →
        (∀ settings directory, Settled settings directory folder →
          ∀ done ∈ history steps directory state, Settled settings done.left.directory folder) ∧
        ∀ done ∈ history steps .empty state,
          Absent done.left.directory folder ∨ Settled .initial done.left.directory folder := by
  refine ⟨fun directory done isDone => ?_, fun folder onFolder =>
    ⟨fun settings directory settled => history_settled onFolder spares settled, ?_⟩⟩
  · obtain ⟨isStep, later, ran⟩ := of_mem_history isDone
    obtain ⟨step, before, left⟩ := done
    obtain rfl : left = step.run before later := ran
    exact Step.keepsConfiguration (spares step isStep) before later
  · exact history_absent_or_settled onFolder spares (Configuration.absent_empty folder)

/-- An empty directory is set up, the catalog of a service with one type is fetched, its module is
generated, and setting up once more is refused. -/
theorem history_keeps_configuration_introspected :
    let introspected : Configuration :=
      { Configuration.initial with catalog := .ofTypes [.table "Note" [("id", .id)]] }
    let context : CommandContext (List String) :=
      ⟨["work"], ["conf"], "conf",
        .ofList [("SCHEMA_BRIDGE_INTROSPECTION_ENDPOINT", "http://[::1]/graphql")], .replaying⟩
    let bodies : List String :=
      ["\x7b\"data\":\x7b\"__schema\":\x7b\"types\":[\x7b\"name\":\"Note\"\x7d]\x7d\x7d\x7d",
        "\x7b\"data\":\x7b\"__type\":\x7b\"name\":\"Note\"," ++
          "\"interfaces\":[\x7b\"name\":\"Node\"\x7d]," ++
          "\"fields\":[\x7b\"name\":\"id\"," ++
          "\"type\":\x7b\"kind\":\"SCALAR\",\"name\":\"ID\"\x7d\x7d]\x7d\x7d\x7d"]
    let steps : List (Step (List String)) :=
      [⟨.setUp, context⟩, ⟨.introspect, context⟩, ⟨.generate "accessors.rs", context⟩,
        ⟨.setUp, context⟩]
    (∀ step ∈ steps, step.Spares) ∧ (∀ step ∈ steps, step.context.folder = ["conf"]) ∧
      history steps .empty bodies =
        [⟨⟨.setUp, context⟩, .empty, ⟨.ok [], Configuration.initial.alone, bodies⟩⟩,
          ⟨⟨.introspect, context⟩, Configuration.initial.alone, ⟨.ok [], introspected.alone, []⟩⟩,
          ⟨⟨.generate "accessors.rs", context⟩, introspected.alone,
            ⟨.ok [], introspected.withModule, []⟩⟩,
          ⟨⟨.setUp, context⟩, introspected.withModule,
            ⟨.error (.alreadyInitialized "conf/configuration.json"), introspected.withModule,
              []⟩⟩] ∧
      (∀ done ∈ history steps .empty bodies, done.KeepsConfiguration) ∧
      Settled .initial introspected.alone ["conf"] ∧
      (∀ done ∈ history steps introspected.alone bodies,
        Settled .initial done.left.directory ["conf"]) ∧
      ∀ done ∈ history steps .empty bodies,
        Absent done.left.directory ["conf"] ∨ Settled .initial done.left.directory ["conf"] := by
  intro introspected context bodies steps
  have elsewhere : ∀ file ∈ files ["conf"],
      (Path.resolve ["work"] "accessors.rs").text ≠ file.text := by
    decide +kernel
  have spares : ∀ step ∈ steps, step.Spares := by
    intro step isStep output isCommand
    simp only [steps, List.mem_cons, List.not_mem_nil, or_false] at isStep
    rcases isStep with rfl | rfl | rfl | rfl <;> cases isCommand
    exact elsewhere
  have onFolder : ∀ step ∈ steps, step.context.folder = ["conf"] := by
    simp [steps, context]
  have answered : Configuration.initial.introspect context.environment context.client bodies =
      (.ok introspected, []) := by
    decide +kernel
  have shown : Path.shown "conf" Configuration.fileName = "conf/configuration.json" := by
    decide +kernel
  have ran := @history_of_answered _ bodies context introspected [] rfl rfl rfl answered
  obtain ⟨kept, inFolder⟩ := history_keeps_configuration steps spares bodies
  obtain ⟨settled, absentOrSettled⟩ := inFolder ["conf"] onFolder
  have isSettled : Settled .initial introspected.alone ["conf"] :=
    ⟨introspected.catalog, Configuration.load_of_file? rfl rfl⟩
  exact ⟨spares, onFolder, shown ▸ ran, kept .empty, isSettled, settled _ _ isSettled,
    absentOrSettled⟩

end Command

end CatalogSql
