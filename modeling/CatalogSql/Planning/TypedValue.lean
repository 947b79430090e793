import CatalogSql.Request.Error
import CatalogSql.Sql.Statement

/-!
# Typed values

A json value is read by the semantic type of its field before it reaches a statement.
-/

namespace CatalogSql

/-- A value that fits its field. -/
inductive TypedValue where
  | id (text : String)
  | string (text : String)
  | enumeration (text : String)
  | integer (value : Int64)
  | double (value : Double)
  | boolean (value : Bool)
  | dateTime (text : String)
  | json (value : Json)
  | null

namespace TypedValue

/-- A number as an integer of 64 bits when it is one, and as a double otherwise. -/
def ofNumber (number : JsonNumber) : TypedValue :=
  match number.int64? with
  | some value => .integer value
  | none => .double number.toDouble

/-- The value of a field, when it fits the field's type. Null fits every type with a
column, and a json field takes any value. -/
def ofJson (table field : String) (type : SemanticType) (value : Json) :
    Except RequestError TypedValue :=
  match type, value with
  | .relation, _ | .unknown, _ => .error (.unsupportedFieldType table field type)
  | _, .null => .ok .null
  | .json, value => .ok (.json value)
  | .id, .string text => .ok (.id text)
  | .string, .string text => .ok (.string text)
  | .enumeration, .string text => .ok (.enumeration text)
  | .dateTime, .string text => .ok (.dateTime text)
  | .boolean, .boolean value => .ok (.boolean value)
  | .number, .number number => .ok (ofNumber number)
  | _, _ => .error (.typeMismatch field type value)

/-- The name of the kind of a value. -/
def kind : TypedValue → String
  | .id _ => "Id"
  | .string _ => "String"
  | .enumeration _ => "Enum"
  | .integer _ => "Int"
  | .double _ => "Float"
  | .boolean _ => "Boolean"
  | .dateTime _ => "DateTime"
  | .json _ => "Json"
  | .null => "Null"

/-- The text of a value that is searched for text. -/
def text? : TypedValue → Option String
  | .id text | .string text | .enumeration text => some text
  | _ => none

/-- The constant a value is compared with. -/
def constant : TypedValue → Sql.Constant
  | .id text | .string text | .enumeration text | .dateTime text => .string text
  | .integer value => .integer value
  | .double value => .double value
  | .boolean value => .boolean value
  | .json value => .json value
  | .null => .null

/-- The type dates are cast to when they are written. -/
def timestampType : String := "timestamp"

/-- The expression a value is written with: dates are cast. -/
def written : TypedValue → Sql.Expression
  | .dateTime text => .cast (.constant (.string text)) timestampType
  | value => .constant value.constant

end TypedValue

end CatalogSql
