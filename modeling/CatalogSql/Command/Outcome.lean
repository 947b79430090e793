import CatalogSql.Command.Arguments
import CatalogSql.Configuration.Directory
import CatalogSql.Introspection.Configure
import CatalogSql.Request.Error

/-!
# Outcomes of the program

Why a command failed, how failures are reported, and what a run of the program leaves
behind for its caller.
-/

namespace CatalogSql

/-- Why a command failed. -/
inductive CommandError where
  | alreadyInitialized (shownFile : String)
  | configuration (error : ConfigurationError)
  | configure (error : ConfigureError)
  | badCondition (fault : Json.TextFault)
  | request (error : RequestError)
  | file (error : FileError)
  /-- A configuration could not be written. -/
  | unwritten (error : FileError)

namespace CommandError

/-- The words for an error. -/
def message : CommandError → String
  | .alreadyInitialized shownFile => "a configuration already exists at " ++ shownFile
  | .configuration error => error.message
  | .configure error => error.message
  | .badCondition fault => fault.text
  | .request error => error.message
  | .file error => error.message
  | .unwritten error => "I/O error: " ++ error.message

/-- What caused an error, each cause with those below it. -/
def causes : CommandError → List String
  | .configure error => error.causes
  | .unwritten error => [error.message]
  | _ => []

/-- The lines that tell of causes. Several are numbered. -/
def causeLines : List String → List String
  | [] => []
  | [cause] => ["", "Caused by:", "    " ++ cause]
  | causes =>
      "" :: "Caused by:" :: causes.zipIdx.map fun (cause, index) =>
        let number := toString index
        String.ofList (List.replicate (5 - number.length) ' ') ++ number ++ ": " ++ cause

/-- The report of an error. -/
def report (error : CommandError) : String :=
  "\n".intercalate (("Error: " ++ error.message) :: causeLines error.causes)

end CommandError

/-- What a run of the program leaves for its caller. -/
structure Outcome where
  exitCode : Nat
  output : String
  errors : String
deriving DecidableEq, Repr

namespace Outcome

/-- The outcome of arguments that lead to no command. -/
def ofUsageError (error : UsageError) : Outcome :=
  if error.isAnswer then ⟨0, error.message ++ "\n", ""⟩ else ⟨2, "", error.message ++ "\n"⟩

/-- The outcome of a command, which may print lines. -/
def ofResult : Except CommandError (List String) → Outcome
  | .ok lines => ⟨0, String.join (lines.map (· ++ "\n")), ""⟩
  | .error error => ⟨1, "", error.report ++ "\n"⟩

end Outcome

end CatalogSql
