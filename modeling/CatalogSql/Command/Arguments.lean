import CatalogSql.Keyed.Entries
import CatalogSql.Number.Decimal

/-!
# Command line arguments

The command that a list of arguments asks for. Arguments are read from left to right and
the first fault is reported; a request for help ends the reading.
-/

namespace CatalogSql

/-- What the program does with the configuration of a directory. -/
inductive Command where
  /-- Writes an initial configuration. -/
  | setUp
  /-- Updates the catalog from the schema service. -/
  | introspect
  /-- Writes the accessor module of the catalog to a file. -/
  | generate (output : String)
  /-- Shows the statement that reads the rows of a table which satisfy a condition. -/
  | explain (table condition : String) (fields : List String) (limit : Option UInt32)
deriving DecidableEq, Repr

/-- A command, and the directory it is for when the arguments give one. -/
structure Invocation where
  directory : Option String
  command : Command
deriving DecidableEq, Repr

/-- Why arguments lead to no command. -/
inductive UsageError where
  | help
  | version
  | noCommand
  | unexpected (argument : String)
  | withoutValue (option : String)
  | badValue (option value : String)
  | repeated (option : String)
  | missing (option : String)
deriving DecidableEq, Repr

namespace UsageError

/-- The words for an error. -/
def message : UsageError → String
  | .help => "Usage: schema-bridge [--context DIRECTORY] COMMAND [OPTIONS]"
  | .version => "schema-bridge 0.1.0"
  | .noCommand => "error: a command is required"
  | .unexpected argument => "error: unexpected argument '" ++ argument ++ "'"
  | .withoutValue option => "error: a value is required for '" ++ option ++ "'"
  | .badValue option value => "error: invalid value '" ++ value ++ "' for '" ++ option ++ "'"
  | .repeated option => "error: '" ++ option ++ "' cannot be used multiple times"
  | .missing option => "error: '" ++ option ++ "' is required"

/-- Whether the message is what the arguments asked for. -/
def isAnswer : UsageError → Bool
  | .help | .version => true
  | _ => false

end UsageError

namespace Arguments

/-- An option that takes a value. -/
structure Setting where
  name : String
  /-- Whether it may be given more than once. -/
  repeats : Bool
  /-- Which values it takes. -/
  accepts : String → Bool

/-- The options given so far with their values, the last one first. -/
abbrev Given := List (String × String)

/-- Adds an option with its value. -/
def add (setting : Setting) (value : String) (given : Given) : Except UsageError Given :=
  if ¬setting.repeats ∧ given.any (·.1 == setting.name) then .error (.repeated setting.name)
  else if setting.accepts value then .ok ((setting.name, value) :: given)
  else .error (.badValue setting.name value)

/-- Whether an argument can be the value of the option in front of it. -/
def isValue (argument : String) : Bool := argument == "-" || !argument.startsWith "-"

/-- The option an argument names, and the value after an equals sign. -/
def find? (settings : List Setting) (argument : String) : Option (Setting × Option String) :=
  let characters := argument.toList
  let name := String.ofList (characters.takeWhile (· ≠ '='))
  let value := match characters.dropWhile (· ≠ '=') with
    | _ :: value => some (String.ofList value)
    | [] => none
  (settings.find? (·.name == name)).map fun setting => (setting, value)

/-- Reads options up to the first argument that is none, which is returned with those
after it. -/
def readSettings (settings : List Setting) (given : Given) :
    List String → Except UsageError (Given × List String)
  | [] => .ok (given, [])
  | argument :: rest =>
      if argument = "--help" ∨ argument.startsWith "-h" then .error .help
      else
        match find? settings argument with
        | none => .ok (given, argument :: rest)
        | some (setting, some value) => do
            let given ← add setting value given
            readSettings settings given rest
        | some (setting, none) =>
            match rest with
            | [] => .error (.withoutValue setting.name)
            | value :: following =>
                if isValue value then do
                  let given ← add setting value given
                  readSettings settings given following
                else .error (.withoutValue setting.name)

/-- Reads the options of a command, which nothing but `--` may follow. -/
def readAll (settings : List Setting) (arguments : List String) : Except UsageError Given := do
  let (given, rest) ← readSettings settings [] arguments
  match rest with
  | [] | ["--"] => return given
  | "--" :: extra :: _ => throw (.unexpected extra)
  | extra :: _ => throw (.unexpected extra)

/-- The value of an option that has to be given. -/
def required (name : String) (given : Given) : Except UsageError String :=
  match Keyed.lookup? name given with
  | some value => .ok value
  | none => .error (.missing name)

/-- A limit: a whole number of 32 bits, which may have a sign. -/
def readLimit? (value : String) : Option UInt32 :=
  match value.toList with
  | '-' :: digits =>
      if ¬digits.isEmpty ∧ digits.all (· == '0') then some 0 else none
  | _ => (Numeral.read (Nat.pow 2 32) value).toOption.map UInt32.ofNat

/-- The option for the directory of the configuration. -/
def directory : Setting := ⟨"--context", false, fun value => !value.isEmpty⟩

/-- The option for the file that is written. -/
def output : Setting := ⟨"--output", false, fun value => !value.isEmpty⟩

/-- The options that describe a read. -/
def read : List Setting :=
  [⟨"--table", false, fun _ => true⟩, ⟨"--condition", false, fun _ => true⟩,
    ⟨"--fields", true, fun _ => true⟩, ⟨"--limit", false, fun value => (readLimit? value).isSome⟩]

/-- The fields that all uses of an option name, commas between them. -/
def listedFields (given : Given) : List String :=
  (given.reverse.filter (·.1 == "--fields")).flatMap fun entry =>
    (entry.2.toList.splitOn ',').map String.ofList

/-- The names of the commands. -/
def commandNames : List String := ["initialize", "introspect", "generate", "translate"]

/-- Reads a command. -/
def readCommand (name : String) (arguments : List String) : Except UsageError Command :=
  match name with
  | "initialize" => (readAll [] arguments).map fun _ => .setUp
  | "introspect" => (readAll [] arguments).map fun _ => .introspect
  | "generate" => do
      let given ← readAll [output] arguments
      return .generate (← required "--output" given)
  | "translate" => do
      let given ← readAll read arguments
      let table ← required "--table" given
      return .explain table ((Keyed.lookup? "--condition" given).getD "\x7b\x7d")
        (listedFields given) ((Keyed.lookup? "--limit" given).bind readLimit?)
  | "help" =>
      match arguments with
      | [] => .error .help
      | topic :: rest =>
          if ("help" :: commandNames).contains topic ∧ rest.isEmpty then .error .help
          else .error (.unexpected topic)
  | other =>
      .error (if other = "--version" ∨ other.startsWith "-V" then .version else .unexpected other)

end Arguments

/-- The invocation that arguments ask for. -/
def Invocation.ofArguments (arguments : List String) : Except UsageError Invocation := do
  let (given, rest) ← Arguments.readSettings [Arguments.directory] [] arguments
  match rest with
  | [] => throw .noCommand
  | name :: arguments =>
      let command ← Arguments.readCommand name arguments
      return ⟨Keyed.lookup? "--context" given, command⟩

end CatalogSql
