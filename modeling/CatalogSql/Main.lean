import CatalogSql.Command.Run

/-!
# The program

Reads the files and variables that a command may need, runs it and writes the files it
changed. The program has no network of its own.
-/

namespace CatalogSql.Program

/-- A file by the text of its path from the root. -/
def readFile (path : String) : IO (Option (String × FileContent)) := do
  try
    let bytes ← IO.FS.readBinFile ("/" ++ path)
    return some (path, .ofBytes bytes)
  catch _ => return none

/-- Writes a file by the text of its path from the root. -/
def writeFile (path content : String) : IO Unit := do
  IO.FS.createDirAll ("/" ++ Path.text ((Path.resolve [] path).dropLast))
  IO.FS.writeFile ("/" ++ path) content

/-- The files that an invocation may read or write. -/
def files (working folder : Path) (command : Command) : List String :=
  let own := [folder ++ [Configuration.fileName], folder ++ [Configuration.schemaFileName]]
  match command with
  | .generate output => (own ++ [Path.resolve working output]).map Path.text
  | _ => own.map Path.text

/-- The variables that settings name. -/
def variableNames (settings : IntrospectionSettings) : List String :=
  (settings.endpoint :: settings.bearerToken.toList).filterMap fun secret =>
    match secret with
    | .ofVariable name => some name
    | .plain _ => none

/-- The values of those variables that are set. -/
def environment (names : List String) : IO Environment := do
  let values ← names.mapM fun name => do
    return (← IO.getEnv name).map fun value => (name, value)
  return .ofList (values.filterMap id)

/-- Runs the program on the files of the machine. -/
def run (arguments : List String) : IO UInt32 := do
  let shownWorking := toString (← IO.currentDir)
  let working := Path.resolve [] shownWorking
  let place ← environment [Invocation.directoryVariable]
  let (names, folder) := match Invocation.ofArguments arguments with
    | .ok invocation =>
        let directory := (invocation.directory? place).toOption.bind id
        let folder := (directory.map (Path.resolve working)).getD working
        (files working folder invocation.command, folder)
    | .error _ => ([], working)
  let before : Directory := ⟨.ofList ((← names.mapM readFile).filterMap id)⟩
  let secrets ← match Configuration.load before folder "" with
    | .ok configuration => environment (variableNames configuration.introspection)
    | .error _ => pure .empty
  let (outcome, after, _) := runProgram arguments working shownWorking
    ⟨place.entries ++ secrets.entries⟩ HttpClient.unreachable before ()
  for (path, content) in after.files.entries do
    match content with
    | .text value => if before.files.get? path ≠ some content then writeFile path value
    | .bytes => pure ()
  IO.print outcome.output
  IO.eprint outcome.errors
  return UInt32.ofNat outcome.exitCode

end CatalogSql.Program

def main (arguments : List String) : IO UInt32 := CatalogSql.Program.run arguments
