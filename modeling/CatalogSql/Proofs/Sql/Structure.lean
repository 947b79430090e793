import CatalogSql.Sql.Render

/-!
# Statements by structure

Expressions, reads and writes hold one another, in lists and options. `Induction` names
what a property of all three must satisfy at every node, and its three theorems say that
this is enough. The renderers of lists are stated as maps over the parts of their
elements.
-/

namespace CatalogSql.Sql

/-- What properties of expressions, reads and writes satisfy at every node when they hold
for the parts of the node. -/
structure Induction (onExpression : Expression → Prop) (onSelect : Select → Prop)
    (onMutation : Mutation → Prop) : Prop where
  conjunction : ∀ left right, onExpression left → onExpression right →
    onExpression (.conjunction left right)
  comparison : ∀ left operator right, onExpression left → onExpression right →
    onExpression (.comparison left operator right)
  isNull : ∀ operand, onExpression operand → onExpression (.isNull operand)
  inSelect : ∀ left select, onExpression left → onSelect select →
    onExpression (.inSelect left select)
  call : ∀ function arguments, (∀ argument ∈ arguments, onExpression argument) →
    onExpression (.call function arguments)
  epoch : ∀ operand, onExpression operand → onExpression (.epoch operand)
  rowToJson : ∀ table, onExpression (.rowToJson table)
  column : ∀ reference, onExpression (.column reference)
  constant : ∀ value, onExpression (.constant value)
  cast : ∀ operand type, onExpression operand → onExpression (.cast operand type)
  select : ∀ select : Select,
    (∀ entry ∈ select.shared, onMutation entry.2) →
    (∀ entry ∈ select.columns, onExpression entry.2) →
    (∀ read name, select.source = some (.select read name) → onSelect read) →
    (∀ join ∈ select.joins, onExpression join.condition) →
    onExpression select.condition →
    (∀ entry ∈ select.ordering, onExpression entry.1) →
    onSelect select
  insertion : ∀ row : Insertion,
    (∀ value ∈ row.values, onExpression value) →
    (∀ entry ∈ row.returning, onExpression entry.2) →
    onMutation (.insertion row)
  update : ∀ change : Update,
    (∀ entry ∈ change.assignments, onExpression entry.2) →
    onExpression change.condition →
    (∀ entry ∈ change.returning, onExpression entry.2) →
    onMutation (.update change)

namespace Induction

variable {onExpression : Expression → Prop} {onSelect : Select → Prop}
  {onMutation : Mutation → Prop}

mutual

/-- The property holds of every expression. -/
theorem expression (steps : Induction onExpression onSelect onMutation) :
    (expression : Expression) → onExpression expression
  | .conjunction left right =>
      steps.conjunction left right (steps.expression left) (steps.expression right)
  | .comparison left operator right =>
      steps.comparison left operator right (steps.expression left) (steps.expression right)
  | .isNull operand => steps.isNull operand (steps.expression operand)
  | .inSelect left select =>
      steps.inSelect left select (steps.expression left) (steps.everySelect select)
  | .call function arguments => steps.call function arguments (steps.expressions arguments)
  | .epoch operand => steps.epoch operand (steps.expression operand)
  | .rowToJson table => steps.rowToJson table
  | .column reference => steps.column reference
  | .constant value => steps.constant value
  | .cast operand type => steps.cast operand type (steps.expression operand)

private theorem expressions (steps : Induction onExpression onSelect onMutation) :
    (list : List Expression) → ∀ member ∈ list, onExpression member
  | [] => List.forall_mem_nil _
  | first :: rest => List.forall_mem_cons.mpr ⟨steps.expression first, steps.expressions rest⟩

private theorem entries (steps : Induction onExpression onSelect onMutation) :
    (list : List (String × Expression)) → ∀ entry ∈ list, onExpression entry.2
  | [] => List.forall_mem_nil _
  | (_, first) :: rest => List.forall_mem_cons.mpr ⟨steps.expression first, steps.entries rest⟩

private theorem orderings (steps : Induction onExpression onSelect onMutation) :
    (list : List (Expression × Direction)) → ∀ entry ∈ list, onExpression entry.1
  | [] => List.forall_mem_nil _
  | (first, _) :: rest => List.forall_mem_cons.mpr ⟨steps.expression first, steps.orderings rest⟩

private theorem mutations (steps : Induction onExpression onSelect onMutation) :
    (list : List (String × Mutation)) → ∀ entry ∈ list, onMutation entry.2
  | [] => List.forall_mem_nil _
  | (_, first) :: rest => List.forall_mem_cons.mpr ⟨steps.mutation first, steps.mutations rest⟩

private theorem joins (steps : Induction onExpression onSelect onMutation) :
    (list : List Join) → ∀ join ∈ list, onExpression join.condition
  | [] => List.forall_mem_nil _
  | ⟨_, _, _, condition⟩ :: rest =>
      List.forall_mem_cons.mpr ⟨steps.expression condition, steps.joins rest⟩

private theorem source (steps : Induction onExpression onSelect onMutation) :
    (source : Option Source) → ∀ read name, source = some (.select read name) → onSelect read
  | none => fun _ _ absent => nomatch absent
  | some (.table _ _) => fun _ _ other => nomatch other
  | some (.select read _) => fun _ _ equal => by
      cases equal
      exact steps.everySelect read

/-- The property holds of every read. -/
theorem everySelect (steps : Induction onExpression onSelect onMutation) :
    (select : Select) → onSelect select
  | ⟨shared, columns, source, joins, condition, ordering, limit, offset⟩ =>
      steps.select ⟨shared, columns, source, joins, condition, ordering, limit, offset⟩
        (steps.mutations shared) (steps.entries columns) (steps.source source)
        (steps.joins joins) (steps.expression condition) (steps.orderings ordering)

/-- The property holds of every write that may precede a read. -/
theorem mutation (steps : Induction onExpression onSelect onMutation) :
    (mutation : Mutation) → onMutation mutation
  | .insertion ⟨schema, table, columns, values, returning⟩ =>
      steps.insertion ⟨schema, table, columns, values, returning⟩ (steps.expressions values)
        (steps.entries returning)
  | .update ⟨schema, table, assignments, condition, returning⟩ =>
      steps.update ⟨schema, table, assignments, condition, returning⟩
        (steps.entries assignments) (steps.expression condition) (steps.entries returning)

end

end Induction

theorem commaSeparated_nil : commaSeparated [] = [] := rfl

/-- Every item but the first has a comma before it. -/
theorem commaSeparated_cons (first : List Piece) (rest : List (List Piece)) :
    commaSeparated (first :: rest) = first ++ rest.flatMap (Piece.words ", " :: ·) := by
  induction rest generalizing first with
  | nil => simp [commaSeparated, List.intercalate]
  | cons second rest ih =>
      have following := ih second
      simp only [commaSeparated] at following ⊢
      rw [List.intercalate_cons_cons, following]
      simp

/-- A list of expressions is rendered item by item. -/
theorem listPieces_eq_map (list : List Expression) :
    Expression.listPieces list = list.map Expression.pieces := by
  induction list with
  | nil => rfl
  | cons first rest ih => rw [Expression.listPieces, ih, List.map_cons]

/-- The parts of an entry of a select list. -/
def columnEntryPieces (entry : String × Expression) : List Piece :=
  entry.2.pieces ++ [.words " AS ", .identifier entry.1]

/-- The columns of a selection are rendered one by one. -/
theorem columnPieces_eq_map (list : List (String × Expression)) :
    columnPieces list = list.map columnEntryPieces := by
  induction list with
  | nil => rfl
  | cons first rest ih => rw [columnPieces, ih, List.map_cons, columnEntryPieces]

/-- The parts of an element of an ordering. -/
def orderingEntryPieces (entry : Expression × Direction) : List Piece :=
  entry.1.pieces ++ [.words entry.2.words]

/-- An ordering is rendered one key at a time. -/
theorem orderingPieces_eq_map (list : List (Expression × Direction)) :
    orderingPieces list = list.map orderingEntryPieces := by
  induction list with
  | nil => rfl
  | cons first rest ih => rw [orderingPieces, ih, List.map_cons, orderingEntryPieces]

/-- The parts of an assignment of an update. -/
def assignmentEntryPieces (entry : String × Expression) : List Piece :=
  .identifier entry.1 :: .words " = " :: entry.2.pieces

/-- Assignments are rendered one by one. -/
theorem assignmentPieces_eq_map (list : List (String × Expression)) :
    assignmentPieces list = list.map assignmentEntryPieces := by
  induction list with
  | nil => rfl
  | cons first rest ih => rw [assignmentPieces, ih, List.map_cons, assignmentEntryPieces]

/-- The parts of a write that precedes a read under a name. -/
def sharedEntryPieces (entry : String × Mutation) : List Piece :=
  .identifier entry.1 :: .words " AS (" :: (entry.2.pieces ++ [.words ")"])

/-- Shared mutations are rendered one by one. -/
theorem sharedPieces_eq_map (list : List (String × Mutation)) :
    sharedPieces list = list.map sharedEntryPieces := by
  induction list with
  | nil => rfl
  | cons first rest ih => rw [sharedPieces, ih, List.map_cons, sharedEntryPieces]

/-- The parts of a join. -/
def Join.pieces (join : Join) : List Piece :=
  .words join.kind.words ::
    (join.reference.pieces ++ .words " AS " :: .identifier join.name :: .words " ON " ::
      join.condition.pieces)

/-- Joins are rendered one after another. -/
theorem joinPieces_eq_flatMap (list : List Join) : joinPieces list = list.flatMap Join.pieces := by
  induction list with
  | nil => rfl
  | cons first rest ih =>
      obtain ⟨kind, reference, name, condition⟩ := first
      simp [joinPieces, ih, Join.pieces]

/-- A condition other than the constant true is written. -/
theorem conditionPieces_of_ne {condition : Expression} (differs : condition ≠ .always) :
    condition.conditionPieces = .words " WHERE " :: condition.pieces := by
  unfold Expression.conditionPieces Expression.whereClause
  split
  · exact absurd rfl differs
  · rfl

/-- The parts of an ordering, which is left out when it is empty. -/
def orderByPieces (ordering : List (Expression × Direction)) : List Piece :=
  if ordering.isEmpty then [] else .words " ORDER BY " :: commaSeparated (orderingPieces ordering)

/-- The parts of the writes before a read, which are left out when there are none. -/
def withPieces (shared : List (String × Mutation)) : List Piece :=
  if shared.isEmpty then []
  else .words "WITH " :: (commaSeparated (sharedPieces shared) ++ [.words " "])

/-- A read is rendered clause after clause. -/
theorem Select.pieces_eq (select : Select) :
    select.pieces =
      withPieces select.shared ++ .words "SELECT " ::
        (commaSeparated (columnPieces select.columns) ++
          (sourcePieces select.source ++ (joinPieces select.joins ++
            (select.condition.conditionPieces ++ (orderByPieces select.ordering ++
              (countPieces " LIMIT " select.limit ++ countPieces " OFFSET " select.offset)))))) := by
  obtain ⟨shared, columns, source, joins, condition, ordering, limit, offset⟩ := select
  rfl

/-- The columns of a write are returned as a select list. -/
theorem returningPieces_eq (returning : List (String × Expression)) :
    returningPieces returning =
      if returning.isEmpty then []
      else .words " RETURNING " :: commaSeparated (columnPieces returning) := by
  cases returning with
  | nil => rfl
  | cons first rest => rfl

/-- The parts of the columns and values of a new row. -/
def rowPieces (columns : List String) (values : List Expression) : List Piece :=
  if columns.isEmpty then [.words " DEFAULT VALUES"]
  else
    .words " (" :: (commaSeparated (columns.map fun column => [.identifier column]) ++
      .words ") VALUES (" :: (commaSeparated (Expression.listPieces values) ++ [.words ")"]))

/-- The pieces of an insertion, clause by clause. -/
theorem Insertion.pieces_eq (row : Insertion) :
    row.pieces =
      .words "INSERT INTO " :: .identifier row.schema :: .words "." :: .identifier row.table ::
        (rowPieces row.columns row.values ++ returningPieces row.returning) := by
  obtain ⟨schema, table, columns, values, returning⟩ := row
  rfl

/-- The pieces of an update, clause by clause. -/
theorem Update.pieces_eq (change : Update) :
    change.pieces =
      .words "UPDATE " :: .identifier change.schema :: .words "." :: .identifier change.table ::
        .words " SET " ::
        (commaSeparated (assignmentPieces change.assignments) ++
          (change.condition.conditionPieces ++ returningPieces change.returning)) := by
  obtain ⟨schema, table, assignments, condition, returning⟩ := change
  rfl

end CatalogSql.Sql
