import CatalogSql.Json.Value

/-!
# Sql statements

The statements that conditions, payloads and composed queries turn into, as trees.
They cover reads of one root table with joins and nested reads, and writes of one
table.
-/

namespace CatalogSql.Sql

/-- A constant. Text, long numbers and json values become numbered parameters; the
others are written into the statement. A literal is a text of this library, never one
of a caller. -/
inductive Constant where
  | small (value : Int32)
  | integer (value : Int64)
  | double (value : Double)
  | boolean (value : Bool)
  | string (value : String)
  | null
  | json (value : Json)
  | literal (value : String)

/-- A table of the database, or a name given to one in the same statement. -/
inductive TableReference where
  | stored (schema table : String)
  | aliased (name : String)
deriving DecidableEq, Repr

/-- A column, qualified wherever more than one table is in scope. -/
inductive ColumnReference where
  | qualified (table : TableReference) (name : String)
  | plain (name : String)
deriving DecidableEq, Repr

/-- The ways two values are compared. -/
inductive Comparison where
  | equals
  | lessThan
  | greaterThan
deriving DecidableEq, Repr

/-- The functions a statement may call. -/
inductive Function where
  | strpos
  | toChar
  | toTimestamp
deriving DecidableEq, Repr

/-- The direction of an ordering. -/
inductive Direction where
  | ascending
  | descending
deriving DecidableEq, Repr

/-- Whether rows without a partner are kept by a join. -/
inductive JoinKind where
  | inner
  | left
deriving DecidableEq, Repr

mutual

/-- A value in a select list, a predicate or a write. -/
inductive Expression where
  | conjunction (left right : Expression)
  | comparison (left : Expression) (operator : Comparison) (right : Expression)
  | isNull (operand : Expression)
  | inSelect (left : Expression) (select : Select)
  | call (function : Function) (arguments : List Expression)
  | epoch (operand : Expression)
  | rowToJson (table : TableReference)
  | column (reference : ColumnReference)
  | constant (value : Constant)
  | cast (operand : Expression) (type : String)

/-- A read. The condition is written when it is not the constant true. -/
structure Select where
  shared : List (String × Mutation)
  columns : List (String × Expression)
  source : Option Source
  joins : List Join
  condition : Expression
  ordering : List (Expression × Direction)
  limit : Option UInt32
  offset : Option UInt32

/-- What a read takes its rows from. -/
inductive Source where
  | table (reference : TableReference) (name : String)
  | select (select : Select) (name : String)

/-- A table joined to the rows of a read. -/
structure Join where
  kind : JoinKind
  reference : TableReference
  name : String
  condition : Expression

/-- A write that may precede a read. -/
inductive Mutation where
  | insertion (insertion : Insertion)
  | update (update : Update)

/-- A write of one new row. Without columns the row takes the default values. -/
structure Insertion where
  schema : String
  table : String
  columns : List String
  values : List Expression
  returning : List (String × Expression)

/-- A write to existing rows. -/
structure Update where
  schema : String
  table : String
  assignments : List (String × Expression)
  condition : Expression
  returning : List (String × Expression)

end

/-- The removal of rows. -/
structure Deletion where
  schema : String
  table : String
  condition : Expression

/-- A statement. -/
inductive Statement where
  | select (select : Select)
  | insertion (insertion : Insertion)
  | update (update : Update)
  | deletion (deletion : Deletion)

namespace Expression

/-- The condition every row satisfies. -/
def always : Expression := .constant (.boolean true)

/-- The conjunction of predicates, nested to the left; none at all is always true. -/
def conjoin : List Expression → Expression
  | [] => always
  | first :: rest => rest.foldl .conjunction first

/-- A column, qualified by a table's name when one is given. -/
def columnOf (name : Option String) (column : String) : Expression :=
  match name with
  | some name => .column (.qualified (.aliased name) column)
  | none => .column (.plain column)

end Expression

namespace Select

/-- A read of a select list and nothing else. -/
def ofColumns (columns : List (String × Expression)) : Select :=
  ⟨[], columns, none, [], .always, [], none, none⟩

end Select

end CatalogSql.Sql
