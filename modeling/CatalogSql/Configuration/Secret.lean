import CatalogSql.Json.Decoder

/-!
# Secrets

A setting is written in the configuration or names an environment variable that holds
it. A variable may be missing, or hold bytes that are no text.
-/

namespace CatalogSql

open Json (Decoder)

/-- Why a variable could not be read. -/
inductive EnvironmentError where
  | notSet (name : String)
  | notText (name : String)
deriving DecidableEq, Repr

namespace EnvironmentError

/-- The words for an error. -/
def message : EnvironmentError → String
  | .notSet name => "the environment variable " ++ name ++ " is not set"
  | .notText name => "the environment variable " ++ name ++ " is not valid unicode"

end EnvironmentError

/-- The variables that are set; those whose bytes are no text have no value. -/
structure Environment where
  entries : List (String × Option String)

namespace Environment

/-- The environment without variables. -/
def empty : Environment := ⟨[]⟩

/-- The environment of variables that hold text. -/
def ofList (entries : List (String × String)) : Environment :=
  ⟨entries.map fun entry => (entry.1, some entry.2)⟩

/-- The value of a variable. -/
def read (environment : Environment) (name : String) : Except EnvironmentError String :=
  match Keyed.lookup? name environment.entries with
  | none => .error (.notSet name)
  | some none => .error (.notText name)
  | some (some value) => .ok value

end Environment

/-- A value, or the variable that holds it. -/
inductive Secret where
  | plain (value : String)
  | ofVariable (name : String)
deriving DecidableEq, Repr

namespace Secret

/-- The value of a secret. -/
def resolve (environment : Environment) : Secret → Except EnvironmentError String
  | .plain value => .ok value
  | .ofVariable name => environment.read name

/-- The key under which an object names its variable. -/
def variableKey : String := "variable"

/-- The written form. -/
def toJson : Secret → Json
  | .plain value => .string value
  | .ofVariable name => .object [(variableKey, .string name)]

/-- The nodes an object holds under the key of the variable. -/
def variableNodes (members : List (Json.Key × Json.Node)) : List Json.Node :=
  members.filterMap fun member =>
    match member.1.text with
    | .ok key => if key = variableKey then some member.2 else none
    | .error _ => none

/-- Reads a secret: a text, or an object that names its variable exactly once and may
hold other keys. Everything is read before the form is judged. -/
def decoder : Decoder Secret := fun _ node => do
  let _ ← node.value
  match node with
  | .string value _ _ => return .plain value
  | .object _ _ _ members _ =>
      match variableNodes members with
      | [.string name _ _] => return .ofVariable name
      | _ => .error (.free (.noVariant "Secret"))
  | _ => .error (.free (.noVariant "Secret"))

end Secret

end CatalogSql
