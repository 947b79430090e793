import CatalogSql.Access.Error
import CatalogSql.Generated.Names
import CatalogSql.Request.Input

/-!
# Typed rows

The row struct of a table has a member for every stored field. A member is absent or
holds a value of the field's type, so the same row stands for what a partial selection
returned and for the payload of a partial write.
-/

namespace CatalogSql

open Json (Decoder)

/-- The values that a row holds in a field of a type. -/
def RowValue : SemanticType → Type
  | .number => Double
  | .boolean => Bool
  | .json | .relation | .unknown => Json
  | .id | .string | .dateTime | .enumeration => String

namespace RowValue

/-- Reads a value of a field. -/
def decoder : (type : SemanticType) → Decoder (RowValue type)
  | .number => Decoder.double
  | .boolean => Decoder.boolean
  | .json | .relation | .unknown => Decoder.json
  | .id | .string | .dateTime | .enumeration => Decoder.string

/-- The json value of a value. Json has no number for one that is not finite. -/
def toJson : (type : SemanticType) → RowValue type → Json
  | .number, (value : Double) => if value.isFinite then .number (.double value) else .null
  | .boolean, (value : Bool) => .boolean value
  | .json, (value : Json) | .relation, (value : Json) | .unknown, (value : Json) => value
  | .id, (value : String) | .string, (value : String) | .dateTime, (value : String)
  | .enumeration, (value : String) => .string value

/-- Reads a member, which null leaves absent. -/
def read (type : SemanticType) (value : Json) : Except Json.Cause (Option (RowValue type)) :=
  Json.decodeValue (Decoder.option (decoder type)) value

end RowValue

/-- For each of some fields, nothing or a value of its type. -/
def Row : List (String × SemanticType) → Type
  | [] => Unit
  | field :: rest => Option (RowValue field.2) × Row rest

namespace Row

/-- The row that holds nothing. -/
def blank : (fields : List (String × SemanticType)) → Row fields
  | [] => ()
  | _ :: rest => (none, blank rest)

/-- The fields that hold a value, in order, with their json values. -/
def entries : (fields : List (String × SemanticType)) → Row fields → List (String × Json)
  | [], _ => []
  | (name, type) :: rest, row =>
      match row.1 with
      | some value => (name, RowValue.toJson type value) :: entries rest row.2
      | none => entries rest row.2

/-- The json object of a row. -/
def toJson (fields : List (String × SemanticType)) (row : Row fields) : Json :=
  .object (entries fields row)

/-- Reads a value into the field of a name. A name that is no field is passed over. -/
def readMember (name : String) (value : Json) :
    (fields : List (String × SemanticType)) → Row fields → Except Json.Cause (Row fields)
  | [], row => .ok row
  | field :: rest, row =>
      if field.1 = name then (RowValue.read field.2 value).map fun member => (member, row.2)
      else (readMember name value rest row.2).map fun following => (row.1, following)

/-- Reads the entries of an object into a row, in the order of the object. -/
def readMembers (fields : List (String × SemanticType)) :
    List (String × Json) → Row fields → Except Json.Cause (Row fields)
  | [], row => .ok row
  | (name, value) :: rest, row => do
      let row ← readMember name value fields row
      readMembers fields rest row

/-- Reads the items of a list, which stand for the fields in their order. Fields after
the end stay absent; items that are left are refused. -/
def readItems (total : Nat) :
    (fields : List (String × SemanticType)) → List Json → Except Json.Cause (Row fields)
  | [], [] => .ok ()
  | [], _ :: _ => .error (.wrongLength total "fewer elements in array")
  | field :: rest, [] => .ok (blank (field :: rest))
  | field :: rest, item :: items => do
      let member ← RowValue.read field.2 item
      let following ← readItems total rest items
      return (member, following)

/-- Reads a row of a struct. -/
def ofJson (struct : String) (fields : List (String × SemanticType)) :
    Json → Except Json.Cause (Row fields)
  | .object members => readMembers fields members (blank fields)
  | .array items => readItems items.length fields items
  | other => .error (Decoder.wrongType ("struct " ++ struct) (.ofValue other)).cause

/-- The payload of a row: the fields that hold a value, in order. -/
def payload (fields : List (String × SemanticType)) (row : Row fields) : Payload :=
  ⟨OrderedMap.ofList ((entries fields row).map fun entry => (entry.1, .value entry.2))⟩

/-- The condition that the fields which hold a value are equal to it. -/
def condition (fields : List (String × SemanticType)) (row : Row fields) : Condition :=
  ⟨SortedMap.ofList ((entries fields row).map fun entry => (entry.1, .value entry.2))⟩

end Row

namespace TableNames

/-- Reads a row of a table into its row struct. -/
def decodeRow (names : TableNames) (row : Json) :
    Except AccessError (Row names.table.storableFields) :=
  (Row.ofJson names.record.text names.table.storableFields row).mapError
    (.rowShape names.table.name)

end TableNames

end CatalogSql
