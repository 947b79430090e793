import CatalogSql.Sql.Render

/-!
# Execution plans

A plan is a statement with the table it works on. A statement that returns rows is
sent inside a read that turns every row into one json object, in a column of its own.
-/

namespace CatalogSql.Sql

/-- The column in which rows arrive as json objects. -/
def rowColumn : String := "row"

/-- The name of a read inside the read that turns its rows into json. -/
def rowTable : String := "_row"

/-- The name of a write inside the read that turns its rows into json. -/
def mutatedTable : String := "_mutated"

/-- A read with every row as one json object. -/
def Select.asJsonRows (select : Select) : Select :=
  { Select.ofColumns [(rowColumn, .rowToJson (.aliased rowTable))] with
    source := some (.select select rowTable) }

/-- A read of the rows a write returns, every row as one json object. -/
def Mutation.asJsonRows (mutation : Mutation) : Select :=
  { Select.ofColumns [(rowColumn, .rowToJson (.aliased mutatedTable))] with
    shared := [(mutatedTable, mutation)]
    source := some (.table (.aliased mutatedTable) mutatedTable) }

namespace Statement

/-- Whether a statement answers with rows instead of a count. -/
def returnsRows : Statement → Bool
  | .deletion _ => false
  | _ => true

/-- The statement that is sent. -/
def wrapped : Statement → Statement
  | .select read => .select read.asJsonRows
  | .insertion row => .select (Mutation.insertion row).asJsonRows
  | .update change => .select (Mutation.update change).asJsonRows
  | .deletion removal => .deletion removal

end Statement

/-- A statement and the table it works on. -/
structure Plan where
  rootTable : String
  statement : Statement

namespace Plan

/-- The text of the statement itself. -/
def raw (plan : Plan) : Prepared := .ofPieces plan.statement.pieces

/-- The text that is sent to the database. -/
def query (plan : Plan) : Prepared := .ofPieces plan.statement.wrapped.pieces

end Plan

end CatalogSql.Sql
