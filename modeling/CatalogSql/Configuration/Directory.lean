import CatalogSql.Configuration.Schema

/-!
# Configuration directories

A directory of files by path, and the configuration in it. A file holds text, or bytes
that are no text. Directories are those that files lie in.
-/

namespace CatalogSql

/-- What a file holds. -/
inductive FileContent where
  | text (value : String)
  | bytes
deriving DecidableEq, Repr

namespace FileContent

/-- What a file of some bytes holds. -/
def ofBytes (content : ByteArray) : FileContent :=
  ((String.fromUTF8? content).map FileContent.text).getD .bytes

end FileContent

/-- Why a file could not be read or written. -/
inductive FileError where
  | missing
  | exists
  | notADirectory
  | isADirectory
  | notText
deriving DecidableEq, Repr

namespace FileError

/-- The words for an error. -/
def message : FileError → String
  | .missing => "No such file or directory (os error 2)"
  | .exists => "File exists (os error 17)"
  | .notADirectory => "Not a directory (os error 20)"
  | .isADirectory => "Is a directory (os error 21)"
  | .notText => "stream did not contain valid UTF-8"

end FileError

/-- A path as the names on the way to it from the root. -/
abbrev Path := List String

namespace Path

/-- Walks along names: a dot stays, two dots go back. -/
def walk (start : Path) : List String → Path
  | [] => start
  | name :: rest =>
      if name = "" ∨ name = "." then walk start rest
      else if name = ".." then walk start.dropLast rest
      else walk (start ++ [name]) rest

/-- Cuts a text at its slashes. -/
def names (text : String) : List String :=
  (text.toList.splitOn '/').map String.ofList

/-- The path a text means in a folder. A leading slash starts at the root. -/
def resolve (folder : Path) (text : String) : Path :=
  walk (if text.startsWith "/" then [] else folder) (names text)

/-- The text of a path. -/
def text (path : Path) : String := "/".intercalate path

/-- A file's path below a directory, as it is shown. -/
def shown (directory file : String) : String :=
  if directory = "" then file
  else if directory.endsWith "/" then directory ++ file
  else directory ++ "/" ++ file

end Path

/-- Files by the text of their paths. -/
structure Directory where
  files : SortedMap FileContent
deriving DecidableEq

namespace Directory

/-- The directory without files. -/
def empty : Directory := ⟨.empty⟩

/-- The content of the file at a path. -/
def file? (directory : Directory) (path : Path) : Option FileContent :=
  directory.files.get? path.text

/-- Whether a path is a directory: the root, or one that a file lies in. -/
def isDirectory (directory : Directory) (path : Path) : Bool :=
  path.isEmpty || directory.files.keys.any fun key =>
    (path.text ++ "/").toList.isPrefixOf key.toList

/-- The file that lies on the way to a path, where there should be a directory. -/
def blocked (directory : Directory) (path : Path) : Bool :=
  (List.range path.length).any fun count => (directory.file? (path.take count)).isSome

/-- Whether a path leads to a file or a directory. -/
def exists? (directory : Directory) (path : Path) : Except FileError Bool :=
  if directory.blocked path then .error .notADirectory
  else .ok ((directory.file? path).isSome || directory.isDirectory path)

/-- Reads a text file. -/
def read (directory : Directory) (path : Path) : Except FileError String :=
  match directory.file? path with
  | some (.text value) => .ok value
  | some .bytes => .error .notText
  | none =>
      if directory.blocked path then .error .notADirectory
      else if directory.isDirectory path then .error .isADirectory
      else .error .missing

/-- Makes sure that a path is a directory. -/
def makeDirectories (directory : Directory) (path : Path) : Except FileError Unit :=
  if directory.blocked path then .error .notADirectory
  else if (directory.file? path).isSome then .error .exists
  else .ok ()

/-- Writes a text file. -/
def write (directory : Directory) (path : Path) (value : String) :
    Except FileError Directory :=
  if directory.blocked path then .error .notADirectory
  else if directory.isDirectory path then .error .isADirectory
  else .ok ⟨directory.files.insert path.text (.text value)⟩

end Directory

/-- Why there is no configuration in a directory. -/
inductive ConfigurationError where
  | parse (file : String) (fault : Json.TextFault)
  | unsupportedVersion (file : String) (version : UInt32)
  | file (file : String) (error : FileError)

namespace ConfigurationError

/-- The words for an error. -/
def message : ConfigurationError → String
  | .parse shown fault =>
      "parse error on " ++ shown ++ ":" ++ toString fault.line ++ ":" ++ toString fault.column ++
        ": " ++ fault.text
  | .unsupportedVersion shown version =>
      "unsupported configuration version " ++ toString version.toNat ++ " in " ++ shown
  | .file shown fault => "I/O error on " ++ shown ++ ": " ++ fault.message

/-- The name by which programs tell errors apart. -/
def kind : ConfigurationError → String
  | .parse _ _ => "ParseError"
  | .unsupportedVersion _ _ => "UnsupportedVersion"
  | .file _ _ => "IoError"

end ConfigurationError

namespace Configuration

/-- The name of configuration files. -/
def fileName : String := "configuration.json"

/-- The name of the file with the schema of configurations. -/
def schemaFileName : String := "schema.json"

/-- Reads a configuration of the current version from a text. The version is judged
before anything else. -/
def ofText (shownFile text : String) : Except ConfigurationError Configuration :=
  match Json.decodeText versionRecord.decoder text with
  | .error fault => .error (.parse shownFile fault)
  | .ok version =>
      if version ≠ currentVersion then .error (.unsupportedVersion shownFile version)
      else (Json.decodeText decoder text).mapError (.parse shownFile)

/-- Reads the configuration of a directory, which is shown and found under different
names when it is not given. -/
def load (directory : Directory) (folder : Path) (shownFolder : String) :
    Except ConfigurationError Configuration :=
  let shownFile := Path.shown shownFolder fileName
  match directory.read (folder ++ [fileName]) with
  | .error error => .error (.file shownFile error)
  | .ok text => ofText shownFile text

/-- Writes a configuration, and its schema beside it. What was written before a failure
stays. -/
def save (configuration : Configuration) (directory : Directory) (folder : Path) :
    Except FileError Unit × Directory :=
  match directory.makeDirectories folder with
  | .error error => (.error error, directory)
  | .ok _ =>
      match directory.write (folder ++ [fileName]) configuration.fileText with
      | .error error => (.error error, directory)
      | .ok directory =>
          match directory.write (folder ++ [schemaFileName]) Schema.fileText with
          | .error error => (.error error, directory)
          | .ok directory => (.ok (), directory)

end Configuration

end CatalogSql
