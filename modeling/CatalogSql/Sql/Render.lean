import CatalogSql.Sql.Statement
import CatalogSql.Sql.Prepared

/-!
# Rendering

The parts of a statement's text. Rendering decides neither numbers of placeholders
nor quotes; both follow from the parts.
-/

namespace CatalogSql.Sql

/-- Lists of parts with a comma between neighbours. -/
def commaSeparated (items : List (List Piece)) : List Piece :=
  List.intercalate [.words ", "] items

namespace Comparison

/-- The sign of a comparison. -/
def words : Comparison → String
  | .equals => " = "
  | .lessThan => " < "
  | .greaterThan => " > "

end Comparison

namespace Function

/-- The name of a function. -/
def words : Function → String
  | .strpos => "strpos"
  | .toChar => "to_char"
  | .toTimestamp => "to_timestamp"

end Function

namespace Direction

/-- The words for a direction. -/
def words : Direction → String
  | .ascending => " ASC"
  | .descending => " DESC"

end Direction

namespace JoinKind

/-- The words that start a join. -/
def words : JoinKind → String
  | .inner => " INNER JOIN "
  | .left => " LEFT OUTER JOIN "

end JoinKind

namespace TableReference

/-- The parts of a table's name. -/
def pieces : TableReference → List Piece
  | .stored schema table => [.identifier schema, .words ".", .identifier table]
  | .aliased name => [.identifier name]

end TableReference

namespace ColumnReference

/-- The parts of a column's name. -/
def pieces : ColumnReference → List Piece
  | .qualified table name => table.pieces ++ [.words ".", .identifier name]
  | .plain name => [.identifier name]

end ColumnReference

namespace Constant

/-- The part for a constant. -/
def piece : Constant → Piece
  | .small value => .words (toString value.toInt)
  | .integer value => .param (.integer value)
  | .double value => .param (.double value)
  | .boolean true => .words "true"
  | .boolean false => .words "false"
  | .string value => .param (.string value)
  | .null => .words "NULL"
  | .json value => .param (.json value)
  | .literal value => .literal value

end Constant

/-- The parts of a limit or an offset. -/
def countPieces (words : String) : Option UInt32 → List Piece
  | some count => [.words (words ++ toString count.toNat)]
  | none => []

/-- A condition clause around the parts of a condition, which is left out when it is the
constant true. -/
def Expression.whereClause (pieces : List Piece) : Expression → List Piece
  | .constant (.boolean true) => []
  | _ => .words " WHERE " :: pieces

mutual

/-- The parts of an expression. -/
def Expression.pieces : Expression → List Piece
  | .conjunction left right =>
      .words "(" :: (left.pieces ++ .words " AND " :: (right.pieces ++ [.words ")"]))
  | .comparison left operator right =>
      .words "(" :: (left.pieces ++ .words operator.words :: (right.pieces ++ [.words ")"]))
  | .isNull operand => .words "(" :: (operand.pieces ++ [.words " IS NULL", .words ")"])
  | .inSelect left select =>
      .words "(" :: (left.pieces ++ .words " IN (" :: (select.pieces ++ [.words "))"]))
  | .call function arguments =>
      .words function.words :: .words "(" ::
        (commaSeparated (Expression.listPieces arguments) ++ [.words ")"])
  | .epoch operand => .words "EXTRACT(EPOCH FROM " :: (operand.pieces ++ [.words ")"])
  | .rowToJson table => .words "row_to_json(" :: (table.pieces ++ [.words ")"])
  | .column reference => reference.pieces
  | .constant value => [value.piece]
  | .cast operand type =>
      .words "cast(" :: (operand.pieces ++ [.words " as ", .identifier type, .words ")"])

/-- The parts of every expression of a list. -/
def Expression.listPieces : List Expression → List (List Piece)
  | [] => []
  | expression :: rest => expression.pieces :: Expression.listPieces rest

/-- The parts of the entries of a select list. -/
def columnPieces : List (String × Expression) → List (List Piece)
  | [] => []
  | (name, expression) :: rest =>
      (expression.pieces ++ [.words " AS ", .identifier name]) :: columnPieces rest

/-- The parts of the elements of an ordering. -/
def orderingPieces : List (Expression × Direction) → List (List Piece)
  | [] => []
  | (expression, direction) :: rest =>
      (expression.pieces ++ [.words direction.words]) :: orderingPieces rest

/-- The parts of the assignments of an update. -/
def assignmentPieces : List (String × Expression) → List (List Piece)
  | [] => []
  | (column, expression) :: rest =>
      (.identifier column :: .words " = " :: expression.pieces) :: assignmentPieces rest

/-- The parts of the writes that precede a read. -/
def sharedPieces : List (String × Mutation) → List (List Piece)
  | [] => []
  | (name, mutation) :: rest =>
      (.identifier name :: .words " AS (" :: (mutation.pieces ++ [.words ")"])) ::
        sharedPieces rest

/-- The parts of the joins of a read. -/
def joinPieces : List Join → List Piece
  | [] => []
  | ⟨kind, reference, name, condition⟩ :: rest =>
      .words kind.words ::
        (reference.pieces ++ .words " AS " :: .identifier name :: .words " ON " ::
          (condition.pieces ++ joinPieces rest))

/-- The parts of a source. -/
def Source.pieces : Source → List Piece
  | .table reference name =>
      .words "FROM " :: (reference.pieces ++ [.words " AS ", .identifier name])
  | .select read name =>
      .words "FROM " :: .words "(" ::
        (read.pieces ++ [.words ")", .words " AS ", .identifier name])

/-- The parts of a source that may be missing. -/
def sourcePieces : Option Source → List Piece
  | some source => .words " " :: source.pieces
  | none => []

/-- The parts of a read. -/
def Select.pieces : Select → List Piece
  | ⟨shared, columns, source, joins, condition, ordering, limit, offset⟩ =>
      (if shared.isEmpty then []
        else .words "WITH " :: (commaSeparated (sharedPieces shared) ++ [.words " "])) ++
      .words "SELECT " :: (commaSeparated (columnPieces columns) ++
      (sourcePieces source ++ (joinPieces joins ++ (condition.whereClause condition.pieces ++
      ((if ordering.isEmpty then []
        else .words " ORDER BY " :: commaSeparated (orderingPieces ordering)) ++
      (countPieces " LIMIT " limit ++ countPieces " OFFSET " offset))))))

/-- The parts of the columns a write returns. -/
def returningPieces : List (String × Expression) → List Piece
  | [] => []
  | (name, expression) :: rest =>
      .words " RETURNING " ::
        commaSeparated ((expression.pieces ++ [.words " AS ", .identifier name]) ::
          columnPieces rest)

/-- The parts of an insertion. -/
def Insertion.pieces : Insertion → List Piece
  | ⟨schema, table, columns, values, returning⟩ =>
      .words "INSERT INTO " :: .identifier schema :: .words "." :: .identifier table ::
        ((if columns.isEmpty then [.words " DEFAULT VALUES"]
          else
            .words " (" :: (commaSeparated (columns.map fun column => [.identifier column]) ++
              .words ") VALUES (" :: (commaSeparated (Expression.listPieces values) ++
                [.words ")"]))) ++
          returningPieces returning)

/-- The parts of an update. -/
def Update.pieces : Update → List Piece
  | ⟨schema, table, assignments, condition, returning⟩ =>
      .words "UPDATE " :: .identifier schema :: .words "." :: .identifier table ::
        .words " SET " ::
        (commaSeparated (assignmentPieces assignments) ++
          (condition.whereClause condition.pieces ++ returningPieces returning))

/-- The parts of a write that may precede a read. -/
def Mutation.pieces : Mutation → List Piece
  | .insertion row => row.pieces
  | .update change => change.pieces

end

/-- The parts of a condition clause. -/
def Expression.conditionPieces (condition : Expression) : List Piece :=
  condition.whereClause condition.pieces

/-- The parts of a deletion. -/
def Deletion.pieces (deletion : Deletion) : List Piece :=
  .words "DELETE FROM " :: .identifier deletion.schema :: .words "." ::
    .identifier deletion.table :: deletion.condition.conditionPieces

/-- The parts of a statement. -/
def Statement.pieces : Statement → List Piece
  | .select read => read.pieces
  | .insertion row => row.pieces
  | .update change => change.pieces
  | .deletion removal => removal.pieces

end CatalogSql.Sql
