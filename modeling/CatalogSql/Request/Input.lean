import CatalogSql.Request.Error
import CatalogSql.Json.Decoder

/-!
# Conditions and payloads

What callers give: a condition maps keys to values and keeps its keys in ascending
order, a payload maps fields to values and keeps them in the order given. A key may be
left unset, which differs from an explicit null.
-/

namespace CatalogSql

open Json (Decoder)

/-- A value given for a key, or the note that none was given. -/
inductive Input where
  | unset
  | value (given : Json)

namespace Input

/-- The value given, if any. -/
def value? : Input → Option Json
  | .unset => none
  | .value given => some given

/-- Whether no value was given. -/
def isUnset : Input → Bool
  | .unset => true
  | .value _ => false

/-- Reads any json value as a value given. -/
def decoder : Decoder Input := fun origin node => (Decoder.json origin node).map .value

end Input

/-- A flat filter: keys and the values they are compared with. -/
structure Condition where
  entries : SortedMap Input

namespace Condition

/-- The condition without keys. -/
def empty : Condition := ⟨.empty⟩

/-- Gives a key an input, replacing any earlier one. -/
def insert (condition : Condition) (key : String) (input : Input) : Condition :=
  ⟨condition.entries.insert key input⟩

/-- Gives a key a value. -/
def set (condition : Condition) (key : String) (value : Json) : Condition :=
  condition.insert key (.value value)

/-- Leaves a key unset. -/
def unset (condition : Condition) (key : String) : Condition := condition.insert key .unset

/-- The condition of a json object. -/
def ofJson (value : Json) : Except RequestError Condition :=
  match value with
  | .object entries => .ok ⟨SortedMap.ofList (entries.map fun entry => (entry.1, .value entry.2))⟩
  | other => .error (.notAnObject other)

/-- Reads a condition. -/
def decoder : Decoder Condition := fun origin node =>
  (Decoder.sortedMap Input.decoder origin node).map Condition.mk

/-- The condition in a json text. -/
def ofText (text : String) : Except Json.TextFault Condition := Json.decodeText decoder text

end Condition

/-- The values of an insert or an update by field. -/
structure Payload where
  entries : OrderedMap Input

namespace Payload

/-- The payload without fields. -/
def empty : Payload := ⟨.empty⟩

/-- Gives a field an input, in its place if the payload holds the field. -/
def insert (payload : Payload) (field : String) (input : Input) : Payload :=
  ⟨payload.entries.insert field input⟩

/-- Gives a field a value. -/
def set (payload : Payload) (field : String) (value : Json) : Payload :=
  payload.insert field (.value value)

/-- Leaves a field unset. -/
def unset (payload : Payload) (field : String) : Payload := payload.insert field .unset

/-- The input of a field. -/
def get? (payload : Payload) (field : String) : Option Input := payload.entries.get? field

/-- The fields that hold a value, in order. -/
def values (payload : Payload) : List (String × Json) :=
  payload.entries.entries.filterMap fun entry => entry.2.value?.map fun value => (entry.1, value)

/-- The payload of a json object. -/
def ofJson (value : Json) : Except RequestError Payload :=
  match value with
  | .object entries =>
      .ok ⟨OrderedMap.ofList (entries.map fun entry => (entry.1, .value entry.2))⟩
  | other => .error (.notAnObject other)

/-- Reads a payload. -/
def decoder : Decoder Payload := fun origin node =>
  (Decoder.orderedMap Input.decoder origin node).map Payload.mk

/-- The payload in a json text. -/
def ofText (text : String) : Except Json.TextFault Payload := Json.decodeText decoder text

end Payload

end CatalogSql
