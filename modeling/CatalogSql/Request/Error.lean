import CatalogSql.Catalog.Basic
import CatalogSql.Json.Printer

/-!
# Request errors

Why a request of a caller cannot be turned into a statement.
-/

namespace CatalogSql

/-- Why a request cannot be planned. -/
inductive RequestError where
  | lookup (error : LookupError)
  | unsupportedOperator (key table : String)
  | ambiguousKey (key table : String)
  | unsupportedFieldType (table field : String) (type : SemanticType)
  | typeMismatch (field : String) (type : SemanticType) (value : Json)
  | invalidDateTime (text : String)
  | emptyUpdate (table : String)
  | notAnObject (value : Json)

namespace RequestError

/-- The words for an error. -/
def message : RequestError → String
  | .lookup error => error.message
  | .unsupportedOperator key table =>
      "Unsupported Operator '" ++ key ++ "' for table '" ++ table ++ "'"
  | .ambiguousKey key table =>
      "condition key '" ++ key ++ "' matches more than one field of table '" ++ table ++ "'"
  | .unsupportedFieldType table field type =>
      "field '" ++ field ++ "' of table '" ++ table ++ "' has type " ++ type.name ++
        " and cannot be filtered or stored"
  | .typeMismatch field type value =>
      "value " ++ value.compactText ++ " does not fit field '" ++ field ++ "' of type " ++ type.name
  | .invalidDateTime text => "invalid date time '" ++ text ++ "'"
  | .emptyUpdate table => "nothing to update in table '" ++ table ++ "'"
  | .notAnObject value => "expected a json object, got " ++ value.compactText

/-- The name by which programs tell errors apart. -/
def kind : RequestError → String
  | .lookup error => error.kind
  | .unsupportedOperator _ _ => "UnsupportedOperator"
  | .ambiguousKey _ _ => "AmbiguousConditionKey"
  | .unsupportedFieldType _ _ _ => "UnsupportedFieldType"
  | .typeMismatch _ _ _ => "TypeMismatch"
  | .invalidDateTime _ => "InvalidDateTime"
  | .emptyUpdate _ => "EmptyUpdate"
  | .notAnObject _ => "NotAnObject"

end RequestError

end CatalogSql
