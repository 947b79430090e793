import CatalogSql.Proofs.Sql.Separation

/-!
# Numbered placeholders of statements

Rendering a statement into a buffer binds the constants of callers that the statement
writes, in the order in which it writes them, and numbers their placeholders without a
gap. `Statement.constants` lists the constants by walking over the statement's tree, so
`placeholders_of_rendering` compares the text with the tree.
-/

namespace CatalogSql.Sql

namespace Constant

/-- The value a constant binds. Small numbers, booleans, null and literals bind none. -/
def param? : Constant → Option Param
  | .string value => some (.string value)
  | .integer value => some (.integer value)
  | .double value => some (.double value)
  | .json value => some (.json value)
  | .small _ | .boolean _ | .null | .literal _ => none

end Constant

mutual

/-- The constants an expression writes, from left to right. -/
def Expression.constants : Expression → List Constant
  | .conjunction left right => left.constants ++ right.constants
  | .comparison left _ right => left.constants ++ right.constants
  | .isNull operand => operand.constants
  | .inSelect left select => left.constants ++ select.constants
  | .call _ arguments => Expression.listConstants arguments
  | .epoch operand => operand.constants
  | .rowToJson _ => []
  | .column _ => []
  | .constant value => [value]
  | .cast operand _ => operand.constants

/-- The constants a list of expressions writes. -/
def Expression.listConstants : List Expression → List Constant
  | [] => []
  | first :: rest => first.constants ++ Expression.listConstants rest

/-- The constants of expressions under names. -/
def entryConstants : List (String × Expression) → List Constant
  | [] => []
  | (_, first) :: rest => first.constants ++ entryConstants rest

/-- The constants of an ordering. -/
def orderingConstants : List (Expression × Direction) → List Constant
  | [] => []
  | (first, _) :: rest => first.constants ++ orderingConstants rest

/-- The constants of the writes that precede a read. -/
def sharedConstants : List (String × Mutation) → List Constant
  | [] => []
  | (_, first) :: rest => first.constants ++ sharedConstants rest

/-- The constants of joins. -/
def joinConstants : List Join → List Constant
  | [] => []
  | ⟨_, _, _, condition⟩ :: rest => condition.constants ++ joinConstants rest

/-- The constants of a source. -/
def Source.constants : Source → List Constant
  | .table _ _ => []
  | .select read _ => read.constants

/-- The constants of a source that may be missing. -/
def sourceConstants : Option Source → List Constant
  | some source => source.constants
  | none => []

/-- The constants a read writes, clause after clause. -/
def Select.constants : Select → List Constant
  | ⟨shared, columns, source, joins, condition, ordering, _, _⟩ =>
      sharedConstants shared ++ entryConstants columns ++ sourceConstants source ++
        joinConstants joins ++ condition.constants ++ orderingConstants ordering

/-- The constants an insertion writes; a row of default values writes no value. -/
def Insertion.constants : Insertion → List Constant
  | ⟨_, _, columns, values, returning⟩ =>
      (if columns.isEmpty then [] else Expression.listConstants values) ++ entryConstants returning

/-- The constants an update writes. -/
def Update.constants : Update → List Constant
  | ⟨_, _, assignments, condition, returning⟩ =>
      entryConstants assignments ++ condition.constants ++ entryConstants returning

/-- The constants of a write that may precede a read. -/
def Mutation.constants : Mutation → List Constant
  | .insertion row => row.constants
  | .update change => change.constants

end

/-- The constants a statement writes, in the order of its text. -/
def Statement.constants : Statement → List Constant
  | .select read => read.constants
  | .insertion row => row.constants
  | .update change => change.constants
  | .deletion removal => removal.condition.constants

section Lists

/-- The constants of a list of expressions are those of each of them, in order. -/
theorem listConstants_eq_flatMap (list : List Expression) :
    Expression.listConstants list = list.flatMap Expression.constants := by
  induction list with
  | nil => rfl
  | cons first rest ih => rw [Expression.listConstants, ih, List.flatMap_cons]

/-- The constants of named expressions are those of each of them, in order. -/
theorem entryConstants_eq_flatMap (list : List (String × Expression)) :
    entryConstants list = list.flatMap fun entry => entry.2.constants := by
  induction list with
  | nil => rfl
  | cons first rest ih => rw [entryConstants, ih, List.flatMap_cons]

/-- The constants of orderings are those of each of them, in order. -/
theorem orderingConstants_eq_flatMap (list : List (Expression × Direction)) :
    orderingConstants list = list.flatMap fun entry => entry.1.constants := by
  induction list with
  | nil => rfl
  | cons first rest ih => rw [orderingConstants, ih, List.flatMap_cons]

/-- The constants of shared writes are those of each of them, in order. -/
theorem sharedConstants_eq_flatMap (list : List (String × Mutation)) :
    sharedConstants list = list.flatMap fun entry => entry.2.constants := by
  induction list with
  | nil => rfl
  | cons first rest ih => rw [sharedConstants, ih, List.flatMap_cons]

/-- The constants of joins are those of their conditions, in order. -/
theorem joinConstants_eq_flatMap (list : List Join) :
    joinConstants list = list.flatMap fun join => join.condition.constants := by
  induction list with
  | nil => rfl
  | cons first rest ih =>
      obtain ⟨kind, reference, name, condition⟩ := first
      rw [joinConstants, ih, List.flatMap_cons]

end Lists

/-- Whether parts bind exactly the values of constants, in their order. -/
def Binds (pieces : List Piece) (constants : List Constant) : Prop :=
  pieces.filterMap Piece.param? = constants.filterMap Constant.param?

namespace Binds

variable {before after pieces : List Piece} {first second constants : List Constant}

/-- No parts bind no values. -/
theorem nil : Binds [] [] := rfl

/-- Words bind no value. -/
theorem words (text : String) (rest : Binds pieces constants) :
    Binds (.words text :: pieces) constants := rest

/-- A name binds no value. -/
theorem identifier (name : String) (rest : Binds pieces constants) :
    Binds (.identifier name :: pieces) constants := rest

/-- Parts after one another bind their values after one another. -/
theorem append (left : Binds before first) (right : Binds after second) :
    Binds (before ++ after) (first ++ second) := by
  rw [Binds, List.filterMap_append, List.filterMap_append, left, right]

/-- Parts that bind nothing may follow. -/
theorem append_nil (left : Binds before first) (right : Binds after []) :
    Binds (before ++ after) first := by
  simpa using left.append right

/-- Parts that bind nothing may stand in front. -/
theorem nil_append (left : Binds before []) (right : Binds after second) :
    Binds (before ++ after) second := left.append right

variable {Element : Type} {items : List Element} {render : Element → List Piece}
  {written : Element → List Constant}

/-- The parts of the items of a list bind the values of the items, in order. -/
theorem flatMap (each : ∀ item ∈ items, Binds (render item) (written item)) :
    Binds (items.flatMap render) (items.flatMap written) := by
  induction items with
  | nil => exact .nil
  | cons item rest ih =>
      have following := ih fun other mem => each other (List.mem_cons_of_mem _ mem)
      rw [List.flatMap_cons, List.flatMap_cons]
      exact (each item (by simp)).append following

/-- Commas between items bind no value. -/
theorem commaSeparated (each : ∀ item ∈ items, Binds (render item) (written item)) :
    Binds (commaSeparated (items.map render)) (items.flatMap written) := by
  cases items with
  | nil => exact .nil
  | cons item rest =>
      rw [List.map_cons, commaSeparated_cons, List.flatMap_map, List.flatMap_cons]
      refine (each item (by simp)).append (.flatMap ?_)
      intro other mem
      exact .words ", " (each other (List.mem_cons_of_mem _ mem))

/-- The name of a table binds no value. -/
theorem tableReference (reference : TableReference) : Binds reference.pieces [] := by
  cases reference <;> rfl

/-- The name of a column binds no value. -/
theorem columnReference (reference : ColumnReference) : Binds reference.pieces [] := by
  cases reference with
  | qualified table name => exact (tableReference table).append_nil (.words "." (.identifier name .nil))
  | plain name => rfl

end Binds

section Clauses

/-- A select list binds the values of its expressions, in order. -/
theorem binds_columnPieces {columns : List (String × Expression)}
    (each : ∀ entry ∈ columns, Binds entry.2.pieces entry.2.constants) :
    Binds (commaSeparated (columnPieces columns)) (entryConstants columns) := by
  rw [columnPieces_eq_map, entryConstants_eq_flatMap]
  refine .commaSeparated ?_
  intro entry mem
  exact (each entry mem).append_nil (.words " AS " (.identifier entry.1 .nil))

/-- A condition that is left out is the constant true, which binds nothing. -/
theorem binds_conditionPieces {condition : Expression}
    (inner : Binds condition.pieces condition.constants) :
    Binds condition.conditionPieces condition.constants := by
  unfold Expression.conditionPieces Expression.whereClause
  split
  · rfl
  · exact .words " WHERE " inner

/-- What a write returns binds the values of its expressions, in order. -/
theorem binds_returningPieces {returning : List (String × Expression)}
    (each : ∀ entry ∈ returning, Binds entry.2.pieces entry.2.constants) :
    Binds (returningPieces returning) (entryConstants returning) := by
  rw [returningPieces_eq]
  cases returning with
  | nil => exact .nil
  | cons first rest => exact .words " RETURNING " (binds_columnPieces each)

/-- Orderings bind the values of their expressions, in order. -/
theorem binds_orderByPieces {ordering : List (Expression × Direction)}
    (each : ∀ entry ∈ ordering, Binds entry.1.pieces entry.1.constants) :
    Binds (orderByPieces ordering) (orderingConstants ordering) := by
  cases ordering with
  | nil => exact .nil
  | cons first rest =>
      refine .words " ORDER BY " ?_
      rw [orderingPieces_eq_map, orderingConstants_eq_flatMap]
      refine .commaSeparated ?_
      intro entry mem
      exact (each entry mem).append_nil (.words entry.2.words .nil)

/-- Shared writes bind their values, in order. -/
theorem binds_withPieces {shared : List (String × Mutation)}
    (each : ∀ entry ∈ shared, Binds entry.2.pieces entry.2.constants) :
    Binds (withPieces shared) (sharedConstants shared) := by
  cases shared with
  | nil => exact .nil
  | cons first rest =>
      refine .words "WITH " (.append_nil ?_ (.words " " .nil))
      rw [sharedPieces_eq_map, sharedConstants_eq_flatMap]
      refine .commaSeparated ?_
      intro entry mem
      exact .identifier entry.1 (.words " AS (" ((each entry mem).append_nil (.words ")" .nil)))

/-- What a read takes its rows from binds the values of the read inside it. -/
theorem binds_sourcePieces {source : Option Source}
    (inner : ∀ read name, source = some (.select read name) → Binds read.pieces read.constants) :
    Binds (sourcePieces source) (sourceConstants source) := by
  match source with
  | none => exact .nil
  | some (.table reference name) =>
      exact .words " " (.words "FROM " ((Binds.tableReference reference).append_nil
        (.words " AS " (.identifier name .nil))))
  | some (.select read name) =>
      exact .words " " (.words "FROM " (.words "(" ((inner read name rfl).append_nil
        (.words ")" (.words " AS " (.identifier name .nil))))))

/-- Joins bind the values of their conditions, in order. -/
theorem binds_joinPieces {joins : List Join}
    (each : ∀ join ∈ joins, Binds join.condition.pieces join.condition.constants) :
    Binds (joinPieces joins) (joinConstants joins) := by
  rw [joinPieces_eq_flatMap, joinConstants_eq_flatMap]
  refine .flatMap ?_
  intro join mem
  exact .words join.kind.words ((Binds.tableReference join.reference).nil_append
    (.words " AS " (.identifier join.name (.words " ON " (each join mem)))))

/-- A bound on the number of rows binds no value: its count is written out. -/
theorem binds_countPieces (words : String) (count : Option UInt32) :
    Binds (countPieces words count) [] := by
  cases count <;> rfl

/-- A list of expressions binds their values, in order. -/
theorem binds_listPieces {list : List Expression}
    (each : ∀ expression ∈ list, Binds expression.pieces expression.constants) :
    Binds (commaSeparated (Expression.listPieces list)) (Expression.listConstants list) := by
  rw [listPieces_eq_map, listConstants_eq_flatMap]
  exact .commaSeparated each

/-- A list of names binds no value. -/
theorem binds_names (names : List String) :
    Binds (commaSeparated (names.map fun name => [.identifier name])) [] := by
  have each : ∀ name ∈ names, Binds [.identifier name] [] := fun name _ => rfl
  have none : names.flatMap (fun _ => ([] : List Constant)) = [] :=
    List.flatMap_eq_nil_iff.mpr fun _ _ => rfl
  have listed := Binds.commaSeparated each
  rwa [none] at listed

/-- A row of default values binds nothing, whatever values it was given. -/
theorem binds_rowPieces (columns : List String) {values : List Expression}
    (each : ∀ value ∈ values, Binds value.pieces value.constants) :
    Binds (rowPieces columns values)
      (if columns.isEmpty then [] else Expression.listConstants values) := by
  unfold rowPieces
  split
  · exact .words " DEFAULT VALUES" .nil
  · exact .words " (" ((binds_names columns).nil_append
      (.words ") VALUES (" ((binds_listPieces each).append_nil (.words ")" .nil))))

/-- Assignments bind the values of their expressions, in order. -/
theorem binds_assignmentPieces {assignments : List (String × Expression)}
    (each : ∀ entry ∈ assignments, Binds entry.2.pieces entry.2.constants) :
    Binds (commaSeparated (assignmentPieces assignments)) (entryConstants assignments) := by
  rw [assignmentPieces_eq_map, entryConstants_eq_flatMap]
  refine .commaSeparated ?_
  intro entry mem
  exact .identifier entry.1 (.words " = " (each entry mem))

end Clauses

/-- A read binds the values of its clauses in the order in which they are written. -/
theorem binds_select (select : Select)
    (shared : ∀ entry ∈ select.shared, Binds entry.2.pieces entry.2.constants)
    (columns : ∀ entry ∈ select.columns, Binds entry.2.pieces entry.2.constants)
    (source : ∀ read name, select.source = some (.select read name) →
      Binds read.pieces read.constants)
    (joins : ∀ join ∈ select.joins, Binds join.condition.pieces join.condition.constants)
    (condition : Binds select.condition.pieces select.condition.constants)
    (ordering : ∀ entry ∈ select.ordering, Binds entry.1.pieces entry.1.constants) :
    Binds select.pieces select.constants := by
  have counts := (binds_countPieces " LIMIT " select.limit).append
    (binds_countPieces " OFFSET " select.offset)
  have clauses := (binds_sourcePieces source).append ((binds_joinPieces joins).append
    ((binds_conditionPieces condition).append ((binds_orderByPieces ordering).append_nil counts)))
  have whole := (binds_withPieces shared).append
    (.words "SELECT " ((binds_columnPieces columns).append clauses))
  rw [Select.pieces_eq]
  obtain ⟨shared, columns, source, joins, condition, ordering, limit, offset⟩ := select
  simpa only [Select.constants, List.append_assoc] using whole

/-- An insertion binds its values, and then those of what it returns. -/
theorem binds_insertion (row : Insertion)
    (values : ∀ value ∈ row.values, Binds value.pieces value.constants)
    (returning : ∀ entry ∈ row.returning, Binds entry.2.pieces entry.2.constants) :
    Binds row.pieces row.constants := by
  obtain ⟨schema, table, columns, given, returned⟩ := row
  have whole := (binds_rowPieces columns values).append (binds_returningPieces returning)
  exact .words "INSERT INTO " (.identifier schema (.words "." (.identifier table whole)))

/-- An update binds the values of its assignments, of its condition and of what it returns. -/
theorem binds_update (change : Update)
    (assignments : ∀ entry ∈ change.assignments, Binds entry.2.pieces entry.2.constants)
    (condition : Binds change.condition.pieces change.condition.constants)
    (returning : ∀ entry ∈ change.returning, Binds entry.2.pieces entry.2.constants) :
    Binds change.pieces change.constants := by
  have whole := (binds_assignmentPieces assignments).append
    ((binds_conditionPieces condition).append (binds_returningPieces returning))
  rw [← List.append_assoc (entryConstants change.assignments)] at whole
  obtain ⟨schema, table, written, filter, returned⟩ := change
  exact .words "UPDATE " (.identifier schema (.words "." (.identifier table
    (.words " SET " whole))))

/-- Every expression, read and write binds the constants its tree holds. -/
theorem binding : Induction (fun expression => Binds expression.pieces expression.constants)
    (fun select => Binds select.pieces select.constants)
    (fun mutation => Binds mutation.pieces mutation.constants) where
  conjunction left right first second :=
    .words "(" (first.append (.words " AND " (second.append_nil (.words ")" .nil))))
  comparison left operator right first second :=
    .words "(" (first.append (.words operator.words (second.append_nil (.words ")" .nil))))
  isNull operand inner := .words "(" (inner.append_nil (.words " IS NULL" (.words ")" .nil)))
  inSelect left select first second :=
    .words "(" (first.append (.words " IN (" (second.append_nil (.words "))" .nil))))
  call function arguments each := .words function.words (.words "("
    ((binds_listPieces each).append_nil (.words ")" .nil)))
  epoch operand inner := .words "EXTRACT(EPOCH FROM " (inner.append_nil (.words ")" .nil))
  rowToJson table :=
    .words "row_to_json(" ((Binds.tableReference table).append_nil (.words ")" .nil))
  column := Binds.columnReference
  constant value := by
    cases value with
    | boolean value => cases value <;> rfl
    | _ => rfl
  cast operand type inner :=
    .words "cast(" (inner.append_nil (.words " as " (.identifier type (.words ")" .nil))))
  select := binds_select
  insertion := binds_insertion
  update := binds_update

/-- A statement binds the values of its constants from left to right. -/
theorem binds_statement (statement : Statement) : Binds statement.pieces statement.constants := by
  cases statement with
  | select read => exact binding.everySelect read
  | insertion row => exact binding.mutation (.insertion row)
  | update change => exact binding.mutation (.update change)
  | deletion removal =>
      exact .words "DELETE FROM " (.identifier removal.schema (.words "."
        (.identifier removal.table
          (binds_conditionPieces (binding.expression removal.condition)))))

/-- The values a statement binds, in the order of its text. -/
def Statement.boundValues (statement : Statement) : List Param :=
  statement.constants.filterMap Constant.param?

/-- Rendering a statement into a buffer whose last number is the count of its values only
appends. The placeholders outside quoted parts of what is appended are numbered on
without a gap, one for every value the statement binds, and the text is the one for an
empty buffer with its placeholders counted on. -/
theorem placeholders_of_rendering (statement : Statement) (buffer : Prepared)
    (counted : buffer.lastNumber = buffer.params.length) :
    ∃ fragment : List Char,
      (buffer.appendAll statement.pieces).text.toList = buffer.text.toList ++ fragment ∧
      (buffer.appendAll statement.pieces).params = buffer.params ++ statement.boundValues ∧
      (buffer.appendAll statement.pieces).lastNumber =
        (buffer.appendAll statement.pieces).params.length ∧
      placeholders fragment =
        List.range' (buffer.params.length + 1) statement.boundValues.length ∧
      fragment = shifted buffer.params.length (Prepared.ofPieces statement.pieces).text.toList := by
  obtain ⟨text, params, lastNumber⟩ := buffer.appendAll_eq statement.pieces
  have values : statement.pieces.filterMap Piece.param? = statement.boundValues :=
    binds_statement statement
  have separated := separated_statement statement
  refine ⟨(numbered buffer.lastNumber (tokens statement.pieces)).flatMap Token.written,
    text, ?_, ?_, ?_, ?_⟩
  · rw [params, values]
  · rw [lastNumber, params, List.length_append, counted]
  · rw [placeholders, scan_written (separated.numbered _), boundValues_numbered, boundValues_tokens,
      values, counted]
  · have countedOn := map_numbered buffer.params.length 0 (tokens statement.pieces)
    rw [Nat.add_zero] at countedOn
    rw [shifted, scan_statement, counted, ← countedOn, List.flatMap_map]

/-- A removal from a table whose name holds a quote and a placeholder, after a text with a
placeholder of its own. -/
theorem placeholders_of_rendering_deletion :
    let statement : Statement := .deletion ⟨"public", "a\"$7",
      .comparison (.column (.plain "$1")) .equals (.constant (.string "it's $2"))⟩
    let buffer : Prepared := ⟨"SELECT $1;", [.integer 5], 1⟩
    buffer.lastNumber = buffer.params.length ∧
    ∃ fragment : List Char,
      (buffer.appendAll statement.pieces).text.toList = buffer.text.toList ++ fragment ∧
      (buffer.appendAll statement.pieces).params = [.integer 5, .string "it's $2"] ∧
      (buffer.appendAll statement.pieces).lastNumber = 2 ∧
      placeholders fragment = [2] ∧
      fragment = shifted 1 (Prepared.ofPieces statement.pieces).text.toList := by
  intro statement buffer
  obtain ⟨fragment, text, params, lastNumber, numbers, shape⟩ :=
    placeholders_of_rendering statement buffer rfl
  refine ⟨rfl, fragment, text, params, ?_, numbers, shape⟩
  rw [lastNumber, params]
  rfl

end CatalogSql.Sql
