import CatalogSql.Request.Error

/-!
# Condition keys

A condition key names a field, or a field followed by a suffix that selects an
operator. A key with no reading or with two of them is refused.
-/

namespace CatalogSql

/-- What a condition key asks of its field. -/
inductive Operator where
  | equals
  | lessThan
  | contains
deriving DecidableEq, Repr

namespace Operator

/-- What follows the field's name in a key. -/
def suffix : Operator → String
  | .equals => ""
  | .lessThan => "_lt"
  | .contains => "_contains"

/-- The name of an operator. -/
def name : Operator → String
  | .equals => "Equals"
  | .lessThan => "LessThan"
  | .contains => "Contains"

/-- Every operator, in the order in which keys are read. -/
def all : List Operator := [.equals, .lessThan, .contains]

end Operator

/-- A field and what is asked of it. -/
structure ResolvedKey where
  field : String
  type : SemanticType
  operator : Operator
deriving DecidableEq, Repr

/-- Text without what it ends with, if it does end so. -/
def dropEnding? (ending text : List Char) : Option (List Char) :=
  if ending.isSuffixOf text then some (text.take (text.length - ending.length)) else none

namespace ResolvedKey

/-- The reading of a key under one operator. -/
def reading? (table : TypeInfo) (key : String) (operator : Operator) : Option ResolvedKey :=
  match dropEnding? operator.suffix.toList key.toList with
  | some characters =>
      let field := String.ofList characters
      (table.fieldType? field).map fun type => ⟨field, type, operator⟩
  | none => none

/-- Every reading of a key. -/
def readings (table : TypeInfo) (key : String) : List ResolvedKey :=
  Operator.all.filterMap (reading? table key)

/-- The only reading of a key. -/
def resolve (table : TypeInfo) (key : String) : Except RequestError ResolvedKey :=
  match readings table key with
  | [] => .error (.unsupportedOperator key table.name)
  | [only] => .ok only
  | _ => .error (.ambiguousKey key table.name)

end ResolvedKey

end CatalogSql
