/-!
# Semantic types

What a field means decides how it is filtered, projected and written. Relations and
fields of unknown meaning have no column of their own.
-/

namespace CatalogSql

/-- The meaning of a field. -/
inductive SemanticType where
  | id
  | string
  | number
  | dateTime
  | enumeration
  | boolean
  | relation
  | json
  | unknown
deriving DecidableEq, Repr, Inhabited

namespace SemanticType

/-- Every semantic type, in the order in which choices are listed. -/
def all : List SemanticType :=
  [.id, .string, .number, .dateTime, .enumeration, .boolean, .relation, .json, .unknown]

/-- The name of a semantic type in configuration files and messages. -/
def name : SemanticType → String
  | .id => "ID"
  | .string => "String"
  | .number => "Number"
  | .dateTime => "DateTime"
  | .enumeration => "Enum"
  | .boolean => "Boolean"
  | .relation => "Relation"
  | .json => "Json"
  | .unknown => "Unknown"

/-- The semantic type of an introspected scalar. -/
def ofScalar? (scalar : String) : Option SemanticType :=
  if scalar = "ID" ∨ scalar = "UUID" then some .id
  else if scalar = "String" then some .string
  else if scalar = "Int" ∨ scalar = "Float" ∨ scalar = "Long" ∨ scalar = "Decimal" ∨
      scalar = "BigInt" then some .number
  else if scalar = "DateTime" then some .dateTime
  else if scalar = "Boolean" then some .boolean
  else if scalar = "Json" then some .json
  else none

/-- Whether values of the type live in a column of their table. -/
def isStorable : SemanticType → Bool
  | .relation | .unknown => false
  | _ => true

end SemanticType

end CatalogSql
