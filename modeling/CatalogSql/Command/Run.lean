import CatalogSql.Command.Outcome
import CatalogSql.Generated.Source
import CatalogSql.Planning.Statements
import CatalogSql.Sql.Listing

/-!
# Running commands

A command works on a directory of files. It reads the configuration of a folder in it,
may ask a schema service, and leaves the directory as it was except for the files it
writes. Paths in arguments start at the working folder.
-/

namespace CatalogSql

/-- What a command is given besides its arguments. -/
structure CommandContext (σ : Type) where
  /-- The folder that paths start at. -/
  working : Path
  /-- The folder of the configuration. -/
  folder : Path
  /-- How the folder of the configuration is written in messages. -/
  shownFolder : String
  environment : Environment
  client : HttpClient σ

/-- The lines a command prints or its error, and the directory and the network after it. -/
structure CommandResult (σ : Type) where
  result : Except CommandError (List String)
  directory : Directory
  state : σ

namespace Path

/-- Whether the text of a path ends like that of a directory. -/
def endsInSlash (text : String) : Bool := text.endsWith "/"

end Path

namespace Directory

/-- Writes the file of a name in a folder, after the directories on the way to it have
been made sure of. -/
def place (directory : Directory) (folder : Path) (file content : String) :
    Except FileError Directory := do
  let path := Path.resolve folder file
  directory.makeDirectories path.dropLast
  if Path.endsInSlash file then throw .isADirectory
  directory.write path content

end Directory

namespace Configuration

/-- The listing of the statement that reads rows of a table. The condition is given as a
json text; without fields all stored ones are read. -/
def explain (configuration : Configuration) (table condition : String) (fields : List String)
    (limit : Option UInt32) : Except CommandError String := do
  let value ← (Json.ofText condition).mapError .badCondition
  let condition ← (Condition.ofJson value).mapError .request
  let selection := if fields.isEmpty then .all else .fields fields
  let scope : Scope := ⟨configuration.catalog, configuration.connection.schema⟩
  let plan ← (scope.planSelect table condition selection limit).mapError .request
  return plan.raw.listing

end Configuration

namespace Command

variable {σ : Type}

/-- Writes an initial configuration where there is none. -/
def runSetUp (context : CommandContext σ) (directory : Directory) :
    Except CommandError Unit × Directory :=
  match directory.exists? (context.folder ++ [Configuration.fileName]) with
  | .error error => (.error (.file error), directory)
  | .ok true =>
      (.error (.alreadyInitialized (Path.shown context.shownFolder Configuration.fileName)),
        directory)
  | .ok false =>
      let (result, directory) := Configuration.initial.save directory context.folder
      (result.mapError .unwritten, directory)

/-- Replaces the catalog of the configuration by what the schema service declares. -/
def runIntrospect (context : CommandContext σ) (directory : Directory) (state : σ) :
    Except CommandError Unit × Directory × σ :=
  match Configuration.load directory context.folder context.shownFolder with
  | .error error => (.error (.configuration error), directory, state)
  | .ok configuration =>
      match configuration.introspect context.environment context.client state with
      | (.error error, state) => (.error (.configure error), directory, state)
      | (.ok introspected, state) =>
          let (result, directory) := introspected.save directory context.folder
          (result.mapError .unwritten, directory, state)

/-- Writes the accessor module of the configuration's catalog. -/
def runGenerate (context : CommandContext σ) (output : String) (directory : Directory) :
    Except CommandError Directory :=
  match Configuration.load directory context.folder context.shownFolder with
  | .error error => .error (.configuration error)
  | .ok configuration =>
      (directory.place context.working output configuration.catalog.moduleText).mapError .file

/-- The listing of a read from the configuration's catalog. -/
def runExplain (context : CommandContext σ) (directory : Directory) (table condition : String)
    (fields : List String) (limit : Option UInt32) : Except CommandError String :=
  match Configuration.load directory context.folder context.shownFolder with
  | .error error => .error (.configuration error)
  | .ok configuration => configuration.explain table condition fields limit

/-- Runs a command. -/
def run (command : Command) (context : CommandContext σ) (directory : Directory) (state : σ) :
    CommandResult σ :=
  match command with
  | .setUp =>
      let (result, directory) := runSetUp context directory
      ⟨result.map fun _ => [], directory, state⟩
  | .introspect =>
      let (result, directory, state) := runIntrospect context directory state
      ⟨result.map fun _ => [], directory, state⟩
  | .generate output =>
      match runGenerate context output directory with
      | .ok directory => ⟨.ok [], directory, state⟩
      | .error error => ⟨.error error, directory, state⟩
  | .explain table condition fields limit =>
      ⟨(runExplain context directory table condition fields limit).map fun listing => [listing],
        directory, state⟩

end Command

/-- The variable that names the directory of the configuration when the arguments do
not. -/
def Invocation.directoryVariable : String := "SCHEMA_BRIDGE_CONTEXT"

namespace Invocation

/-- The directory of an invocation: that of its arguments, or that of the environment. -/
def directory? (invocation : Invocation) (environment : Environment) :
    Except UsageError (Option String) :=
  match invocation.directory, environment.read directoryVariable with
  | some directory, _ => .ok (some directory)
  | none, .ok "" => .error (.withoutValue Arguments.directory.name)
  | none, .ok directory => .ok (some directory)
  | none, .error _ => .ok none

end Invocation

/-- Runs the program: what arguments ask for, from a working folder of a directory. The
configuration lies in that folder unless the invocation gives another. -/
def runProgram {σ : Type} (arguments : List String) (working : Path) (shownWorking : String)
    (environment : Environment) (client : HttpClient σ) (directory : Directory) (state : σ) :
    Outcome × Directory × σ :=
  let parsed : Except UsageError (Command × Option String) := do
    let invocation ← Invocation.ofArguments arguments
    return (invocation.command, ← invocation.directory? environment)
  match parsed with
  | .error error => (.ofUsageError error, directory, state)
  | .ok (command, folder?) =>
      let context : CommandContext σ :=
        ⟨working, (folder?.map (Path.resolve working)).getD working,
          folder?.getD shownWorking, environment, client⟩
      let ran := command.run context directory state
      (.ofResult ran.result, ran.directory, ran.state)

end CatalogSql
