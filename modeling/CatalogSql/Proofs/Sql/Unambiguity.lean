import CatalogSql.Proofs.Sql.Clauses
import CatalogSql.Proofs.Sql.Separation
import CatalogSql.Sql.Plan

/-!
# Unambiguous statements

A statement's text and the values bound to it determine the statement, whatever its names
and literals hold.
-/

namespace CatalogSql.Sql

/-- Every insertion that is a statement or inside it and names no column has no values. -/
def Statement.IsWellFormed : Statement → Prop
  | .select read => read.IsWellFormed
  | .insertion row => (Mutation.insertion row).IsWellFormed
  | .update change => (Mutation.update change).IsWellFormed
  | .deletion removal => removal.condition.IsWellFormed

/-- Every well-formed expression, read and write is determined. -/
theorem determination : Induction
    (fun expression => expression.IsWellFormed → expression.IsDetermined)
    (fun select => select.IsWellFormed →
      Clause Select.pieces Select.IsWellFormed [")"] ["WITH ", "SELECT "] select)
    (fun mutation => mutation.IsWellFormed → mutation.IsDetermined) where
  conjunction left right first second wellFormed := by
    obtain ⟨leftValid, rightValid⟩ := Expression.isWellFormed_conjunction.mp wellFormed
    exact determined_conjunction (first leftValid) (second rightValid)
  comparison left operator right first second wellFormed := by
    obtain ⟨leftValid, rightValid⟩ := Expression.isWellFormed_comparison.mp wellFormed
    exact determined_comparison operator (first leftValid) (second rightValid)
  isNull operand inner wellFormed :=
    determined_isNull (inner (Expression.isWellFormed_isNull.mp wellFormed))
  inSelect left select first second wellFormed := by
    obtain ⟨leftValid, selectValid⟩ := Expression.isWellFormed_inSelect.mp wellFormed
    exact determined_inSelect (first leftValid) (second selectValid).determined
  call function arguments each wellFormed := by
    have valid := Expression.isWellFormed_call.mp wellFormed
    exact determined_call function fun argument mem => each argument mem (valid argument mem)
  epoch operand inner wellFormed :=
    determined_epoch (inner (Expression.isWellFormed_epoch.mp wellFormed))
  rowToJson table _ := determined_rowToJson table
  column reference _ := determined_columnExpression reference
  constant value _ := determined_constantExpression value
  cast operand type inner wellFormed :=
    determined_cast type (inner (Expression.isWellFormed_cast.mp wellFormed))
  select select shared columns source joins condition ordering wellFormed := by
    cases wellFormed with
    | clauses sharedValid columnsValid sourceValid joinsValid conditionValid orderingValid =>
        exact clause_select select
          (fun entry mem => shared entry mem (sharedValid entry mem))
          (fun entry mem => columns entry mem (columnsValid entry mem))
          (fun read name same => (source read name same (sourceValid read name same)).determined)
          (fun join mem => joins join mem (joinsValid join mem))
          (condition conditionValid)
          (fun entry mem => ordering entry mem (orderingValid entry mem))
  insertion row values returning wellFormed := by
    cases wellFormed with
    | insertion empty valuesValid returningValid =>
        exact determined_insertion row empty
          (fun value mem => values value mem (valuesValid value mem))
          (fun entry mem => returning entry mem (returningValid entry mem))
  update change assignments condition returning wellFormed := by
    cases wellFormed with
    | update assignmentsValid conditionValid returningValid =>
        exact determined_update change
          (fun entry mem => assignments entry mem (assignmentsValid entry mem))
          (condition conditionValid)
          (fun entry mem => returning entry mem (returningValid entry mem))

namespace Statement

/-- The words a statement may start with. -/
def firstWords : Statement → List String
  | .select _ => ["WITH ", "SELECT "]
  | .insertion _ => ["INSERT INTO "]
  | .update _ => ["UPDATE "]
  | .deletion _ => ["DELETE FROM "]

/-- A statement begins with one of its first words. -/
theorem startsWith_firstWords (statement : Statement) (wellFormed : statement.IsWellFormed) :
    ∃ word ∈ statement.firstWords, ∃ rest, tokens statement.pieces = spell word ++ rest := by
  cases statement with
  | select read =>
      have starts := (determination.everySelect read wellFormed).starts read [] .nil
      rw [List.append_nil] at starts
      rcases starts with none | ⟨word, mem, rest, shape⟩
      · simp [Select.pieces_eq, Piece.tokens] at none
      · exact ⟨word, mem, rest, shape.symm⟩
  | insertion row =>
      obtain ⟨⟩ := row
      exact ⟨"INSERT INTO ", by simp [firstWords], _, rfl⟩
  | update change =>
      obtain ⟨⟩ := change
      exact ⟨"UPDATE ", by simp [firstWords], _, rfl⟩
  | deletion removal => exact ⟨"DELETE FROM ", by simp [firstWords], _, rfl⟩

/-- Statements whose first words are apart have different tokens. -/
theorem tokens_ne {left right : Statement} (leftWellFormed : left.IsWellFormed)
    (rightWellFormed : right.IsWellFormed)
    (apart : (left.firstWords.all fun word => right.firstWords.all (isApart word)) = true) :
    tokens left.pieces ≠ tokens right.pieces := by
  intro equal
  obtain ⟨word, mem, rest, shape⟩ := left.startsWith_firstWords leftWellFormed
  obtain ⟨other, otherMem, others, otherShape⟩ := right.startsWith_firstWords rightWellFormed
  have wordsApart := List.all_eq_true.mp (List.all_eq_true.mp apart word mem) other otherMem
  rw [shape, otherShape] at equal
  exact spell_append_ne wordsApart rest others equal

/-- The tokens of a well-formed statement determine it. -/
theorem tokens_injective {left right : Statement} (leftWellFormed : left.IsWellFormed)
    (rightWellFormed : right.IsWellFormed) (equal : tokens left.pieces = tokens right.pieces) :
    left = right := by
  have ended : tokens left.pieces ++ [] = tokens right.pieces ++ [] := by rw [equal]
  cases left with
  | select read =>
      cases right with
      | select other =>
          obtain ⟨same, -⟩ := (determination.everySelect read leftWellFormed).determined other [] []
            rightWellFormed .nil .nil ended
          rw [same]
      | _ => exact absurd equal (tokens_ne leftWellFormed rightWellFormed rfl)
  | insertion row =>
      cases right with
      | insertion other =>
          obtain ⟨same, -⟩ := determination.mutation (.insertion row) leftWellFormed
            (.insertion other) [] [] rightWellFormed .nil .nil ended
          cases same
          rfl
      | _ => exact absurd equal (tokens_ne leftWellFormed rightWellFormed rfl)
  | update change =>
      cases right with
      | update other =>
          obtain ⟨same, -⟩ := determination.mutation (.update change) leftWellFormed
            (.update other) [] [] rightWellFormed .nil .nil ended
          cases same
          rfl
      | _ => exact absurd equal (tokens_ne leftWellFormed rightWellFormed rfl)
  | deletion removal =>
      cases right with
      | deletion other =>
          obtain ⟨sameSchema, sameTable, conditions⟩ := target_append_cancel ended
          have condition := (clause_conditionPieces [] rfl rfl
            (determination.expression removal.condition leftWellFormed)).determined
          obtain ⟨sameCondition, -⟩ := condition other.condition [] [] rightWellFormed .nil .nil
            conditions
          obtain ⟨⟩ := removal
          obtain ⟨⟩ := other
          cases sameSchema
          cases sameTable
          cases sameCondition
          rfl
      | _ => exact absurd equal (tokens_ne leftWellFormed rightWellFormed rfl)

/-- The text of a statement and the values bound to it determine its tokens. -/
theorem tokens_eq_of_text {left right : Statement}
    (text : (Prepared.ofPieces left.pieces).text = (Prepared.ofPieces right.pieces).text)
    (params : (Prepared.ofPieces left.pieces).params = (Prepared.ofPieces right.pieces).params) :
    tokens left.pieces = tokens right.pieces := by
  obtain ⟨-, leftParams, -⟩ := Prepared.empty.appendAll_eq left.pieces
  obtain ⟨-, rightParams, -⟩ := Prepared.empty.appendAll_eq right.pieces
  have values : Sql.boundValues (tokens left.pieces) = Sql.boundValues (tokens right.pieces) := by
    rw [boundValues_tokens, boundValues_tokens]
    rw [Prepared.ofPieces, Prepared.ofPieces, leftParams, rightParams] at params
    exact params
  have scanned : numbered 0 (tokens left.pieces) = numbered 0 (tokens right.pieces) := by
    rw [← scan_statement left, text, scan_statement right]
  exact numbered_injective scanned values

/-- The statement that is sent tells the statement it is sent for. -/
theorem wrapped_injective : Function.Injective wrapped := by
  intro left right equal
  cases left <;> cases right <;> cases equal <;> rfl

/-- A well-formed statement stays well-formed when it is wrapped. -/
theorem wrapped_isWellFormed {statement : Statement} (wellFormed : statement.IsWellFormed) :
    statement.wrapped.IsWellFormed := by
  have row : ∀ table, ∀ entry ∈ [(rowColumn, Expression.rowToJson (.aliased table))],
      entry.2.IsWellFormed := by
    intro table entry mem
    obtain rfl := List.mem_singleton.mp mem
    exact .rowToJson _
  have write : ∀ mutation : Mutation, mutation.IsWellFormed →
      mutation.asJsonRows.IsWellFormed := by
    intro mutation valid
    refine .clauses ?_ (row mutatedTable) (fun _ _ other => nomatch other) (List.forall_mem_nil _)
      (.constant _) (List.forall_mem_nil _)
    intro entry mem
    obtain rfl := List.mem_singleton.mp mem
    exact valid
  cases statement with
  | select read =>
      refine .clauses (List.forall_mem_nil _) (row rowTable) ?_ (List.forall_mem_nil _)
        (.constant _) (List.forall_mem_nil _)
      intro inner name same
      cases same
      exact wellFormed
  | insertion row => exact write (.insertion row) wellFormed
  | update change => exact write (.update change) wellFormed
  | deletion removal => exact wellFormed

end Statement

/-- No two statements have one text and one list of bound values, neither by themselves nor
in the form that is sent, whatever quotes, placeholders or words their names and literals
hold. -/
theorem statement_of_rendering {left right : Plan} (leftWellFormed : left.statement.IsWellFormed)
    (rightWellFormed : right.statement.IsWellFormed) :
    (left.raw.text = right.raw.text → left.raw.params = right.raw.params →
        left.statement = right.statement) ∧
      (left.query.text = right.query.text → left.query.params = right.query.params →
        left.statement = right.statement) := by
  constructor
  · intro text params
    exact Statement.tokens_injective leftWellFormed rightWellFormed
      (Statement.tokens_eq_of_text text params)
  · intro text params
    exact Statement.wrapped_injective (Statement.tokens_injective
      (Statement.wrapped_isWellFormed leftWellFormed)
      (Statement.wrapped_isWellFormed rightWellFormed) (Statement.tokens_eq_of_text text params))

/-- Two plans with one text: a removal whose condition is given at once, and one whose
condition is joined from its two predicates. Their names hold quotes and words. -/
theorem statement_of_rendering_deletion :
    let predicates : List Expression :=
      [.comparison (.column (.plain "a\" = $1")) .equals (.constant (.string "$2")),
        .isNull (.column (.plain " IS NULL) AND ("))]
    let joined : Plan := ⟨"row", .deletion ⟨"s\".\"", "row", .conjoin predicates⟩⟩
    let whole : Plan := ⟨"", .deletion ⟨"s\".\"", "row",
      .conjunction (.comparison (.column (.plain "a\" = $1")) .equals (.constant (.string "$2")))
        (.isNull (.column (.plain " IS NULL) AND (")))⟩⟩
    joined.statement.IsWellFormed ∧ whole.statement.IsWellFormed ∧
      joined.raw.text = whole.raw.text ∧ joined.raw.params = whole.raw.params ∧
      joined.query.text = whole.query.text ∧ joined.query.params = whole.query.params ∧
      joined.statement = whole.statement := by
  intro predicates joined whole
  have wellFormed : joined.statement.IsWellFormed :=
    .conjunction (.comparison .equals (.column _) (.constant _)) (.isNull (.column _))
  refine ⟨wellFormed, wellFormed, rfl, rfl, rfl, rfl, ?_⟩
  exact (statement_of_rendering wellFormed wellFormed).1 rfl rfl

end CatalogSql.Sql
