import CatalogSql.Number.Shortest
import CatalogSql.Keyed.Ordered

/-!
# Json values

Objects keep their entries in the order given. A reader gives every key once; the
type itself allows repetitions, and looking a key up takes the first of them.
-/

namespace CatalogSql

/-- A json number. An integer keeps its exact value, which lies between the least
signed and the greatest unsigned number of 64 bits; every other number is a double. -/
inductive JsonNumber where
  | integer (value : Int)
  | double (value : Double)
deriving DecidableEq, Repr

namespace JsonNumber

/-- The number as a signed number of 64 bits, when it is an integer that fits. -/
def int64? : JsonNumber → Option Int64
  | .integer value =>
      if Int64.minValue.toInt ≤ value ∧ value ≤ Int64.maxValue.toInt then some (Int64.ofInt value)
      else none
  | .double _ => none

/-- The number as a double, rounded when it is a long integer. -/
def toDouble : JsonNumber → Double
  | .integer value => Double.ofInt value
  | .double value => value

end JsonNumber

/-- A json value. -/
inductive Json where
  | null
  | boolean (value : Bool)
  | number (value : JsonNumber)
  | string (value : String)
  | array (items : List Json)
  | object (entries : List (String × Json))
deriving Inhabited

namespace Json

/-- An integer. -/
def integer (value : Int) : Json := .number (.integer value)

/-- A list of texts. -/
def strings (values : List String) : Json := .array (values.map .string)

/-- A text or the absence of one. -/
def optional {α : Type} (encode : α → Json) : Option α → Json
  | some value => encode value
  | none => .null

/-- The value under a key of an object. -/
def get? (key : String) : Json → Option Json
  | .object entries => Keyed.lookup? key entries
  | _ => none

end Json

end CatalogSql
