import CatalogSql.Proofs.Sql.References
import CatalogSql.Proofs.Sql.Structure

/-!
# Well-formed statements

An insertion without columns writes none of its values, so a text tells a tree only when
such an insertion has none; `IsWellFormed` asks for that. An expression holds insertions in
the reads nested in it only.
-/

namespace CatalogSql.Sql

mutual

/-- Every insertion inside an expression that names no column has no values. -/
inductive Expression.IsWellFormed : Expression → Prop where
  | conjunction {left right : Expression} :
      left.IsWellFormed → right.IsWellFormed → (Expression.conjunction left right).IsWellFormed
  | comparison {left right : Expression} (operator : Comparison) :
      left.IsWellFormed → right.IsWellFormed →
        (Expression.comparison left operator right).IsWellFormed
  | isNull {operand : Expression} :
      operand.IsWellFormed → (Expression.isNull operand).IsWellFormed
  | inSelect {left : Expression} {select : Select} :
      left.IsWellFormed → select.IsWellFormed → (Expression.inSelect left select).IsWellFormed
  | call (function : Function) {arguments : List Expression} :
      (∀ argument ∈ arguments, argument.IsWellFormed) →
        (Expression.call function arguments).IsWellFormed
  | epoch {operand : Expression} : operand.IsWellFormed → (Expression.epoch operand).IsWellFormed
  | rowToJson (table : TableReference) : (Expression.rowToJson table).IsWellFormed
  | column (reference : ColumnReference) : (Expression.column reference).IsWellFormed
  | constant (value : Constant) : (Expression.constant value).IsWellFormed
  | cast {operand : Expression} (type : String) :
      operand.IsWellFormed → (Expression.cast operand type).IsWellFormed

/-- Every insertion inside a read that names no column has no values. -/
inductive Select.IsWellFormed : Select → Prop where
  | clauses {select : Select}
      (shared : ∀ entry ∈ select.shared, entry.2.IsWellFormed)
      (columns : ∀ entry ∈ select.columns, entry.2.IsWellFormed)
      (source : ∀ read name, select.source = some (.select read name) → read.IsWellFormed)
      (joins : ∀ join ∈ select.joins, join.condition.IsWellFormed)
      (condition : select.condition.IsWellFormed)
      (ordering : ∀ entry ∈ select.ordering, entry.1.IsWellFormed) : select.IsWellFormed

/-- Every insertion that is a write or inside it and names no column has no values. -/
inductive Mutation.IsWellFormed : Mutation → Prop where
  | insertion {row : Insertion} (empty : row.columns = [] → row.values = [])
      (values : ∀ value ∈ row.values, value.IsWellFormed)
      (returning : ∀ entry ∈ row.returning, entry.2.IsWellFormed) :
      (Mutation.insertion row).IsWellFormed
  | update {change : Update}
      (assignments : ∀ entry ∈ change.assignments, entry.2.IsWellFormed)
      (condition : change.condition.IsWellFormed)
      (returning : ∀ entry ∈ change.returning, entry.2.IsWellFormed) :
      (Mutation.update change).IsWellFormed

end

namespace Expression

variable {left right operand : Expression} {arguments : List Expression} {select : Select}

/-! ## Expressions by their parts -/

@[simp] theorem isWellFormed_conjunction :
    (conjunction left right).IsWellFormed ↔ left.IsWellFormed ∧ right.IsWellFormed := by
  refine ⟨fun wellFormed => ?_, fun both => .conjunction both.1 both.2⟩
  cases wellFormed with
  | conjunction first second => exact ⟨first, second⟩

@[simp] theorem isWellFormed_comparison {operator : Comparison} :
    (comparison left operator right).IsWellFormed ↔ left.IsWellFormed ∧ right.IsWellFormed := by
  refine ⟨fun wellFormed => ?_, fun both => .comparison operator both.1 both.2⟩
  cases wellFormed with
  | comparison _ first second => exact ⟨first, second⟩

@[simp] theorem isWellFormed_isNull : (isNull operand).IsWellFormed ↔ operand.IsWellFormed := by
  refine ⟨fun wellFormed => ?_, .isNull⟩
  cases wellFormed with
  | isNull inner => exact inner

@[simp] theorem isWellFormed_inSelect :
    (inSelect left select).IsWellFormed ↔ left.IsWellFormed ∧ select.IsWellFormed := by
  refine ⟨fun wellFormed => ?_, fun both => .inSelect both.1 both.2⟩
  cases wellFormed with
  | inSelect first second => exact ⟨first, second⟩

@[simp] theorem isWellFormed_call {function : Function} :
    (call function arguments).IsWellFormed ↔ ∀ argument ∈ arguments, argument.IsWellFormed := by
  refine ⟨fun wellFormed => ?_, .call function⟩
  cases wellFormed with
  | call _ each => exact each

@[simp] theorem isWellFormed_epoch : (epoch operand).IsWellFormed ↔ operand.IsWellFormed := by
  refine ⟨fun wellFormed => ?_, .epoch⟩
  cases wellFormed with
  | epoch inner => exact inner

@[simp] theorem isWellFormed_cast {type : String} :
    (cast operand type).IsWellFormed ↔ operand.IsWellFormed := by
  refine ⟨fun wellFormed => ?_, .cast type⟩
  cases wellFormed with
  | cast _ inner => exact inner

end Expression

/-! ## Expressions by their reads -/

/-- An expression is well-formed when the reads nested in it are. -/
theorem wellFormedByReads : Induction
    (fun expression => expression.IsWellFormed ↔ ∀ read ∈ expression.reads, read.IsWellFormed)
    (fun _ => True) (fun _ => True) where
  conjunction left right first second := by
    rw [Expression.isWellFormed_conjunction, Expression.reads, List.forall_mem_append, first, second]
  comparison left operator right first second := by
    rw [Expression.isWellFormed_comparison, Expression.reads, List.forall_mem_append, first, second]
  isNull operand inner := Expression.isWellFormed_isNull.trans inner
  inSelect left select first _ := by
    rw [Expression.isWellFormed_inSelect, Expression.reads, List.forall_mem_append, first,
      List.forall_mem_singleton]
  call function arguments each := by
    rw [Expression.isWellFormed_call, Expression.reads, listReads_eq_flatMap,
      List.forall_mem_flatMap]
    exact forall₂_congr each
  epoch operand inner := Expression.isWellFormed_epoch.trans inner
  rowToJson table := iff_of_true (.rowToJson table) (List.forall_mem_nil _)
  column reference := iff_of_true (.column reference) (List.forall_mem_nil _)
  constant value := iff_of_true (.constant value) (List.forall_mem_nil _)
  cast operand type inner := Expression.isWellFormed_cast.trans inner
  select _ _ _ _ _ _ _ := trivial
  insertion _ _ _ := trivial
  update _ _ _ _ := trivial

theorem Expression.isWellFormed_iff {expression : Expression} :
    expression.IsWellFormed ↔ ∀ read ∈ expression.reads, read.IsWellFormed :=
  wellFormedByReads.expression expression

theorem Expression.isWellFormed_conjoin_iff {predicates : List Expression} :
    (conjoin predicates).IsWellFormed ↔ ∀ predicate ∈ predicates, predicate.IsWellFormed := by
  simp only [isWellFormed_iff, reads_conjoin, List.forall_mem_flatMap]

theorem Expression.isWellFormed_columnOf (name : Option String) (column : String) :
    (columnOf name column).IsWellFormed := by
  cases name <;> exact .column _

end CatalogSql.Sql
