import CatalogSql.Json.Printer
import CatalogSql.Sql.Layout
import CatalogSql.Sql.Prepared
import CatalogSql.Text.Escaped

/-!
# Listings of prepared statements

A statement over several lines, and below it its parameters with their numbers and
types.
-/

namespace CatalogSql

/-- Doubles in listings are written in full for exponents from -4 to 15, and a positive
exponent carries no sign. -/
def Sql.listedDouble : DecimalLayout := ⟨-4, 16, false⟩

namespace Json

mutual

/-- A json value with the names of the types of its parts. -/
def listed : Json → String
  | .null => "Null"
  | .boolean value => "Bool(" ++ (if value then "true" else "false") ++ ")"
  | .number value => "Number(" ++ numberText value ++ ")"
  | .string value => "String(" ++ Text.shown value ++ ")"
  | .array items => "Array [" ++ ", ".intercalate (listedItems items) ++ "]"
  | .object entries => "Object \x7b" ++ ", ".intercalate (listedEntries entries) ++ "\x7d"

/-- The items of an array. -/
def listedItems : List Json → List String
  | [] => []
  | item :: rest => listed item :: listedItems rest

/-- The entries of an object. -/
def listedEntries : List (String × Json) → List String
  | [] => []
  | (key, value) :: rest => (Text.shown key ++ ": " ++ listed value) :: listedEntries rest

end

end Json

namespace Sql

/-- A parameter with its type. -/
def Param.listed : Param → String
  | .string value => "String(" ++ Text.shown value ++ ")"
  | .integer value => "Int(" ++ toString value.toInt ++ ")"
  | .double value => "Float(" ++ listedDouble.text value ++ ")"
  | .json value => "Json(" ++ value.listed ++ ")"

namespace Prepared

/-- The parameters with their numbers. -/
def listedParams (prepared : Prepared) : String :=
  let numbered (entry : Param × Nat) : String :=
    "(" ++ toString entry.2 ++ ", " ++ entry.1.listed ++ ")"
  "[" ++ ", ".intercalate ((prepared.params.zipIdx 1).map numbered) ++ "]"

/-- The statement over several lines and its parameters. -/
def listing (prepared : Prepared) : String :=
  laidOut prepared.text ++ "\n\n" ++ prepared.listedParams

end Prepared

end Sql

end CatalogSql
