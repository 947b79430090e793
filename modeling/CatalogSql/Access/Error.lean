import CatalogSql.Request.Error
import CatalogSql.Json.Fault

/-!
# Access errors

Why a composed query or a call on the database failed.
-/

namespace CatalogSql

/-- Why a returned row is no json object in the column for rows. -/
inductive RowFault where
  | missingColumn (column : String)
  | nullColumn (column : String)
  | notJson (column : String)
  | badJson (column : String) (fault : Json.TextFault)

namespace RowFault

/-- The words for a row that cannot be read. -/
def message : RowFault → String
  | .missingColumn column => "no column found for name: " ++ column
  | .nullColumn column =>
      "error occurred while decoding column \"" ++ column ++
        "\": unexpected null; try decoding as an `Option`"
  | .notJson column =>
      "error occurred while decoding column \"" ++ column ++ "\": mismatched types"
  | .badJson column fault =>
      "error occurred while decoding column \"" ++ column ++ "\": " ++ fault.text

end RowFault

/-- Why an operation on a table failed. -/
inductive AccessError where
  | request (error : RequestError)
  | unknownJoin (name : String)
  | duplicateJoin (name : String)
  | notARowStatement (table : String)
  | noRowReturned (table : String)
  | rowShape (table : String) (cause : Json.Cause)
  | database (code message : String)
  | unreadableRow (fault : RowFault)

namespace AccessError

/-- The words for an error. -/
def message : AccessError → String
  | .request error => error.message
  | .unknownJoin name => "table '" ++ name ++ "' is not part of this query"
  | .duplicateJoin name => "table alias '" ++ name ++ "' is already used in this query"
  | .notARowStatement table => "statement on '" ++ table ++ "' does not return rows"
  | .noRowReturned table => "no row was returned by the insert into '" ++ table ++ "'"
  | .rowShape table cause => "unexpected row shape for table '" ++ table ++ "': " ++ cause.text
  | .database _ message => "error returned from database: " ++ message
  | .unreadableRow fault => fault.message

/-- The name by which programs tell errors apart. Errors of the database carry its own
code. -/
def kind : AccessError → String
  | .request error => error.kind
  | .unknownJoin _ => "UnknownJoin"
  | .duplicateJoin _ => "DuplicateJoin"
  | .notARowStatement _ => "NotARowStatement"
  | .noRowReturned _ => "NoRowReturned"
  | .rowShape _ _ => "RowShape"
  | .database code _ => "Database." ++ code
  | .unreadableRow _ => "Execution"

end AccessError

end CatalogSql
