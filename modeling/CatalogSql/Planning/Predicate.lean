import CatalogSql.Planning.Key
import CatalogSql.Planning.TypedValue
import CatalogSql.Request.Input

/-!
# Predicates

Every set key of a condition becomes one predicate, in the order of the keys. Dates
are compared through the seconds since 1970, and text is searched exactly.
-/

namespace CatalogSql

/-- The pattern the database reads and writes dates with. -/
def datePattern : String := "YYYY-MM-DD HH24:MI:SS:MSZ"

namespace Predicate

/-- The comparison of an operator. -/
def comparison : Operator → Sql.Comparison
  | .lessThan => .lessThan
  | .equals | .contains => .equals

/-- The predicate of a column that contains a text. -/
def containing (column : Sql.Expression) (text : String) : Sql.Expression :=
  .comparison (.call .strpos [column, .constant (.string text)]) .greaterThan
    (.constant (.small 0))

/-- The predicate that compares a date column with a date's text. -/
def dated (column : Sql.Expression) (operator : Operator) (text : String) : Sql.Expression :=
  .comparison (.epoch column) (comparison operator)
    (.epoch (.call .toTimestamp [.constant (.string text), .constant (.literal datePattern)]))

/-- The predicate of a column for a resolved key and the value typed for it. -/
def ofValue (column : Sql.Expression) (key : ResolvedKey) (typed : TypedValue) (given : Json) :
    Except RequestError Sql.Expression :=
  let mismatch : RequestError := .typeMismatch key.field key.type given
  match key.operator, typed with
  | .contains, typed =>
      match typed.text? with
      | some text => .ok (containing column text)
      | none => .error mismatch
  | .equals, .null => .ok (.isNull column)
  | .lessThan, .null => .error mismatch
  | operator, .dateTime text => .ok (dated column operator text)
  | operator, typed => .ok (.comparison column (comparison operator) (.constant typed.constant))

/-- The predicate of one key, if it is set. A key is resolved even when it is unset. -/
def ofEntry (table : TypeInfo) (name : Option String) (key : String) (input : Input) :
    Except RequestError (Option Sql.Expression) := do
  let resolved ← ResolvedKey.resolve table key
  match input with
  | .unset => return none
  | .value value =>
      let typed ← TypedValue.ofJson table.name resolved.field resolved.type value
      let predicate ← ofValue (.columnOf name resolved.field) resolved typed value
      return some predicate

/-- The predicates of the entries of a condition, in order. -/
def ofEntries (table : TypeInfo) (name : Option String) :
    List (String × Input) → Except RequestError (List Sql.Expression)
  | [] => .ok []
  | (key, input) :: rest => do
      let predicate ← ofEntry table name key input
      let following ← ofEntries table name rest
      return predicate.toList ++ following

end Predicate

namespace Condition

/-- The predicates of a condition on a table, whose columns are qualified when the table
has been given a name. -/
def predicates (condition : Condition) (table : TypeInfo) (name : Option String) :
    Except RequestError (List Sql.Expression) :=
  Predicate.ofEntries table name condition.entries.entries

/-- The conjunction of the predicates of a condition. -/
def expression (condition : Condition) (table : TypeInfo) (name : Option String) :
    Except RequestError Sql.Expression :=
  (condition.predicates table name).map Sql.Expression.conjoin

end Condition

end CatalogSql
