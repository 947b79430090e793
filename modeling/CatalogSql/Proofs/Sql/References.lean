import CatalogSql.Sql.Statement

/-!
# Columns that expressions name

The columns an expression names outside the reads nested in it, which have a scope of
their own, and these reads.
-/

namespace CatalogSql.Sql

mutual

/-- The columns an expression names, from left to right; those of nested reads are left out. -/
def Expression.references : Expression → List ColumnReference
  | .conjunction left right => left.references ++ right.references
  | .comparison left _ right => left.references ++ right.references
  | .isNull operand => operand.references
  | .inSelect left _ => left.references
  | .call _ arguments => Expression.listReferences arguments
  | .epoch operand => operand.references
  | .rowToJson _ => []
  | .column reference => [reference]
  | .constant _ => []
  | .cast operand _ => operand.references

/-- The columns that the expressions of a list name. -/
def Expression.listReferences : List Expression → List ColumnReference
  | [] => []
  | first :: rest => first.references ++ Expression.listReferences rest

end

mutual

/-- The reads nested in an expression, from left to right; those nested deeper are left out. -/
def Expression.reads : Expression → List Select
  | .conjunction left right => left.reads ++ right.reads
  | .comparison left _ right => left.reads ++ right.reads
  | .isNull operand => operand.reads
  | .inSelect left select => left.reads ++ [select]
  | .call _ arguments => Expression.listReads arguments
  | .epoch operand => operand.reads
  | .rowToJson _ => []
  | .column _ => []
  | .constant _ => []
  | .cast operand _ => operand.reads

/-- The reads nested in the expressions of a list. -/
def Expression.listReads : List Expression → List Select
  | [] => []
  | first :: rest => first.reads ++ Expression.listReads rest

end

/-- The reads of a list of expressions are those of its members, one after another. -/
theorem listReads_eq_flatMap (list : List Expression) :
    Expression.listReads list = list.flatMap Expression.reads := by
  induction list with
  | nil => rfl
  | cons first rest ih => rw [Expression.listReads, ih, List.flatMap_cons]

namespace ColumnReference

/-- A column, qualified by a table's name when one is given. -/
def named : Option String → String → ColumnReference
  | some table, column => .qualified (.aliased table) column
  | none, column => .plain column

end ColumnReference

theorem references_columnOf (name : Option String) (column : String) :
    (Expression.columnOf name column).references = [.named name column] := by
  cases name <;> rfl

theorem reads_columnOf (name : Option String) (column : String) :
    (Expression.columnOf name column).reads = [] := by
  cases name <;> rfl

/-- What a conjunction holds is what its predicates hold, in order. -/
theorem flatMap_conjoin {Held : Type} {held : Expression → List Held}
    (onAlways : held .always = [])
    (onConjunction : ∀ left right, held (.conjunction left right) = held left ++ held right)
    (predicates : List Expression) : held (.conjoin predicates) = predicates.flatMap held := by
  cases predicates with
  | nil => exact onAlways
  | cons first rest =>
      rw [Expression.conjoin, List.flatMap_cons]
      induction rest generalizing first with
      | nil => exact (List.append_nil _).symm
      | cons second rest ih =>
          rw [List.foldl_cons, ih, onConjunction, List.flatMap_cons, List.append_assoc]

/-- A conjunction refers to what its predicates refer to. -/
theorem references_conjoin (predicates : List Expression) :
    (Expression.conjoin predicates).references = predicates.flatMap Expression.references :=
  flatMap_conjoin rfl (fun _ _ => rfl) predicates

/-- A conjunction holds the nested reads of its predicates. -/
theorem reads_conjoin (predicates : List Expression) :
    (Expression.conjoin predicates).reads = predicates.flatMap Expression.reads :=
  flatMap_conjoin rfl (fun _ _ => rfl) predicates

end CatalogSql.Sql
