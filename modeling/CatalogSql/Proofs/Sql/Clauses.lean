import CatalogSql.Proofs.Sql.Expressions

/-!
# Determined clauses

Clauses that may be left out and the words that start them. A read and a write are
determined clause after clause, from what may follow the last one back to the first.
-/

namespace CatalogSql.Sql

section Clauses

variable (follow : List String)

/-- A list of columns is determined if its expressions are. -/
theorem determined_columnPieces {columns : List (String × Expression)}
    (apart : follow.all (isApart ", ") = true) (ending : (", " :: follow).all isEnding = true)
    (each : ∀ entry ∈ columns, entry.2.IsDetermined) :
    Determined (fun columns => commaSeparated (columnPieces columns))
      (fun columns => ∀ entry ∈ columns, entry.2.IsWellFormed) follow columns := by
  simp only [columnPieces_eq_map]
  refine determined_commaSeparated follow
    (fun entry : String × Expression => entry.2.IsWellFormed) ?_ apart ?_
  · intro entry rest
    rw [columnEntryPieces, tokens_append, List.append_assoc]
    exact not_startsWith_expression ending entry.2 _
  · intro entry mem other rest others wellFormed _ _ equal
    simp only [columnEntryPieces, tokens_append, tokens_words, tokens_identifier, tokens_nil,
      List.append_assoc] at equal
    obtain ⟨sameValue, sameName, rests⟩ := (each entry mem).cancel_named rfl wellFormed equal
    exact ⟨Prod.ext sameName sameValue, rests⟩

/-- `RETURNING` is left out where nothing is returned. -/
theorem isOptional_returningPieces :
    IsOptional returningPieces (fun columns => commaSeparated (columnPieces columns))
      " RETURNING " [] where
  leftOut := rfl
  started columns nonempty := by
    cases columns with
    | nil => exact absurd rfl nonempty
    | cons first rest => rfl

/-- The two directions begin apart. -/
theorem Direction.words_apart (first second : Direction) (differ : first ≠ second) :
    isApart first.words second.words = true := by
  revert differ
  cases first <;> cases second <;> decide

/-- An ordering is determined if its expressions are. -/
theorem determined_orderingPieces {ordering : List (Expression × Direction)}
    (apart : follow.all (isApart ", ") = true) (ending : (", " :: follow).all isEnding = true)
    (each : ∀ entry ∈ ordering, entry.1.IsDetermined) :
    Determined (fun ordering => commaSeparated (orderingPieces ordering))
      (fun ordering => ∀ entry ∈ ordering, entry.1.IsWellFormed) follow ordering := by
  have spaced : ∀ direction : Direction, covers afterExpression [direction.words] = true := by
    intro direction
    cases direction <;> rfl
  simp only [orderingPieces_eq_map]
  refine determined_commaSeparated follow
    (fun entry : Expression × Direction => entry.1.IsWellFormed) ?_ apart ?_
  · intro entry rest
    rw [orderingEntryPieces, tokens_append, List.append_assoc]
    exact not_startsWith_expression ending entry.1 _
  · intro entry mem other rest others wellFormed _ _ equal
    simp only [orderingEntryPieces, tokens_append, tokens_words, tokens_nil, List.append_assoc,
      List.nil_append] at equal
    obtain ⟨sameValue, tails⟩ := each entry mem _ _ _ wellFormed (.spell_append (spaced _) _)
      (.spell_append (spaced _) _) equal
    obtain ⟨sameDirection, rests⟩ := words_append_cancel Direction.words_apart tails
    exact ⟨Prod.ext sameValue sameDirection, rests⟩

/-- `ORDER BY` is left out where nothing is ordered. -/
theorem isOptional_orderByPieces :
    IsOptional orderByPieces (fun ordering => commaSeparated (orderingPieces ordering))
      " ORDER BY " [] where
  leftOut := rfl
  started ordering nonempty := by
    cases ordering with
    | nil => exact absurd rfl nonempty
    | cons first rest => rfl

/-- Assignments are determined if the assigned expressions are. -/
theorem determined_assignmentPieces {assignments : List (String × Expression)}
    (apart : follow.all (isApart ", ") = true) (ending : (", " :: follow).all isEnding = true)
    (covered : covers afterExpression (", " :: follow) = true)
    (each : ∀ entry ∈ assignments, entry.2.IsDetermined) :
    Determined (fun assignments => commaSeparated (assignmentPieces assignments))
      (fun assignments => ∀ entry ∈ assignments, entry.2.IsWellFormed) follow assignments := by
  simp only [assignmentPieces_eq_map]
  refine determined_commaSeparated follow
    (fun entry : String × Expression => entry.2.IsWellFormed) ?_ apart ?_
  · intro entry rest starts
    have isNone := opening_of_startsWith ending starts
    cases isNone
  · intro entry mem other rest others wellFormed starts startsOther equal
    simp only [assignmentEntryPieces, tokens_words, tokens_identifier, List.cons_append,
      List.append_assoc] at equal
    injection equal with names values
    injection names with sameName
    obtain ⟨sameValue, rests⟩ := (each entry mem).mono covered _ _ _ wellFormed starts startsOther
      (List.append_cancel_left values)
    exact ⟨Prod.ext sameName sameValue, rests⟩

/-- Shared mutations are determined if each of them is. -/
theorem determined_sharedPieces {shared : List (String × Mutation)}
    (apart : follow.all (isApart ", ") = true) (ending : (", " :: follow).all isEnding = true)
    (each : ∀ entry ∈ shared, entry.2.IsDetermined) :
    Determined (fun shared => commaSeparated (sharedPieces shared))
      (fun shared => ∀ entry ∈ shared, entry.2.IsWellFormed) follow shared := by
  simp only [sharedPieces_eq_map]
  refine determined_commaSeparated follow
    (fun entry : String × Mutation => entry.2.IsWellFormed) ?_ apart ?_
  · intro entry rest starts
    have isNone := opening_of_startsWith ending starts
    cases isNone
  · intro entry mem other rest others wellFormed starts startsOther equal
    simp only [sharedEntryPieces, tokens_words, tokens_identifier, List.cons_append,
      List.append_assoc] at equal
    injection equal with names writes
    injection names with sameName
    obtain ⟨sameWrite, rests⟩ := (each entry mem).closed rfl _ _ _ wellFormed starts
      startsOther (List.append_cancel_left writes)
    exact ⟨Prod.ext sameName sameWrite, rests⟩

/-- `WITH` is left out where no mutation is shared. -/
theorem isOptional_withPieces :
    IsOptional withPieces (fun shared => commaSeparated (sharedPieces shared) ++ [Piece.words " "])
      "WITH " [] where
  leftOut := rfl
  started shared nonempty := by
    cases shared with
    | nil => exact absurd rfl nonempty
    | cons first rest => rfl

/-- The parts of a source after its first word. -/
def Source.rowPieces : Source → List Piece
  | .table reference name => reference.pieces ++ [.words " AS ", .identifier name]
  | .select read name => .words "(" :: (read.pieces ++ [.words ")", .words " AS ", .identifier name])

/-- `FROM` is left out where there is no source. -/
theorem isOptional_sourcePieces :
    IsOptional sourcePieces (fun source => source.elim [] Source.rowPieces) " FROM " none where
  leftOut := rfl
  started source isSome := by
    match source with
    | none => exact absurd rfl isSome
    | some (.table reference name) => rfl
    | some (.select read name) => rfl

/-- The `FROM` clause is determined if the read it names is. -/
theorem clause_sourcePieces {source : Option Source}
    (apart : follow.all (isApart " FROM ") = true)
    (each : ∀ read name, source = some (.select read name) → read.IsDetermined) :
    Clause sourcePieces
      (fun source => ∀ read name, source = some (.select read name) → read.IsWellFormed)
      follow (" FROM " :: follow) source := by
  refine isOptional_sourcePieces.clause apart rfl ?_
  intro isSome other rest others ⟨wellFormed, isSomeOther⟩ _ _ equal
  match source, other with
  | some (.table reference name), some (.table otherReference otherName) =>
      simp only [Option.elim, Source.rowPieces, tokens_append, tokens_words, tokens_identifier,
        tokens_nil, List.append_assoc] at equal
      have table := determined_table [" AS "] rfl reference
      obtain ⟨rfl, rfl, rests⟩ := table.cancel_named rfl trivial equal
      exact ⟨rfl, rests⟩
  | some (.select read name), some (.select otherRead otherName) =>
      simp only [Option.elim, Source.rowPieces, tokens_append, tokens_words, tokens_identifier,
        tokens_nil, List.append_assoc] at equal
      obtain ⟨rfl, tails⟩ := each read name rfl otherRead _ _ (wellFormed otherRead otherName rfl)
        (.spell_append rfl _) (.spell_append rfl _) (List.append_cancel_left equal)
      injection List.append_cancel_left (List.append_cancel_left tails) with names rests
      injection names with sameName
      subst sameName
      exact ⟨rfl, rests⟩
  | some (.table reference _), some (.select _ _) => cases reference <;> cases equal
  | some (.select _ _), some (.table reference _) => cases reference <;> cases equal
  | none, _ => exact absurd rfl isSome
  | _, none => exact absurd rfl isSomeOther

/-- The two kinds of joins begin apart. -/
theorem JoinKind.words_apart (first second : JoinKind) (differ : first ≠ second) :
    isApart first.words second.words = true := by
  revert differ
  cases first <;> cases second <;> decide

/-- The joins are determined if their conditions are. -/
theorem clause_joinPieces {joins : List Join}
    (apart : ∀ kind : JoinKind, follow.all (isApart kind.words) = true)
    (covered : covers afterExpression follow = true)
    (each : ∀ join ∈ joins, join.condition.IsDetermined) :
    Clause joinPieces (fun joins => ∀ join ∈ joins, join.condition.IsWellFormed) follow
      (" INNER JOIN " :: " LEFT OUTER JOIN " :: follow) joins := by
  have begun : ∀ (join : Join) (rest : List (Token Param)),
      StartsWith (" INNER JOIN " :: " LEFT OUTER JOIN " :: follow) (tokens join.pieces ++ rest) := by
    rintro ⟨kind, reference, name, condition⟩ rest
    rw [Join.pieces, tokens_words, List.append_assoc]
    cases kind <;> exact .spell_append (covers_of_subset (by simp [JoinKind.words])) _
  have wider : covers (" INNER JOIN " :: " LEFT OUTER JOIN " :: follow) follow = true :=
    covers_of_subset fun word mem => by simp [mem]
  have render : joinPieces = fun joins => joins.flatMap Join.pieces := funext joinPieces_eq_flatMap
  rw [render]
  refine ⟨determined_flatMap (fun join : Join => join.condition.IsWellFormed) ?_ begun
    wider ?_, fun others rest starts => startsWith_flatMap begun wider starts others⟩
  · rintro ⟨kind, reference, name, condition⟩ rest
    rw [Join.pieces, tokens_words, List.append_assoc]
    exact StartsWith.not_spell_append (apart kind) (by cases kind <;> rfl) _
  · rintro ⟨kind, reference, name, condition⟩ mem ⟨otherKind, otherReference, otherName, other⟩
      rest others wellFormed starts startsOther equal
    simp only [Join.pieces, tokens_append, tokens_words, tokens_identifier, List.append_assoc,
      List.cons_append] at equal
    obtain ⟨rfl, tails⟩ := words_append_cancel JoinKind.words_apart equal
    have table := determined_table [" AS "] rfl reference
    obtain ⟨rfl, rfl, conditions⟩ := table.cancel_named rfl trivial tails
    have spaced : covers afterExpression (" INNER JOIN " :: " LEFT OUTER JOIN " :: follow) = true := by
      rw [covers, List.all_cons, List.all_cons]
      exact covered
    obtain ⟨rfl, rests⟩ := (each _ mem).mono spaced _ _ _ wellFormed starts startsOther
      (List.append_cancel_left conditions)
    exact ⟨rfl, rests⟩

/-- `WHERE` is left out where every row is taken. -/
theorem isOptional_conditionPieces :
    IsOptional Expression.conditionPieces Expression.pieces " WHERE " .always where
  leftOut := rfl
  started condition differs := by rw [conditionPieces_of_ne differs, tokens_words]

/-- The `WHERE` clause is determined if its condition is. -/
theorem clause_conditionPieces {condition : Expression}
    (apart : follow.all (isApart " WHERE ") = true)
    (covered : covers afterExpression follow = true) (inner : condition.IsDetermined) :
    Clause Expression.conditionPieces Expression.IsWellFormed follow (" WHERE " :: follow)
      condition :=
  isOptional_conditionPieces.clause apart rfl fun _ =>
    (inner.mono covered).restrict fun _ narrower => narrower.1

/-- `LIMIT` and `OFFSET` are left out where no number is given. -/
theorem isOptional_countPieces (words : String) :
    IsOptional (countPieces words)
      (fun count => [.words (toString (count.getD 0).toNat)]) words none where
  leftOut := rfl
  started count isSome := by
    cases count with
    | none => exact absurd rfl isSome
    | some count => simp [countPieces, Piece.tokens, spell]

/-- The number of a `LIMIT` or `OFFSET` is determined where no digit follows. -/
theorem clause_countPieces (words : String) (apart : follow.all (isApart words) = true)
    (nonempty : words.toList.isEmpty = false)
    (noDigits : follow.all breaksNumber = true)
    (count : Option UInt32) :
    Clause (countPieces words) (fun _ => True) follow (words :: follow) count := by
  refine (isOptional_countPieces words).clause apart nonempty ?_
  intro isSome other rest others ⟨_, isSomeOther⟩ starts startsOther equal
  cases count with
  | none => exact absurd rfl isSome
  | some count =>
      cases other with
      | none => exact absurd rfl isSomeOther
      | some other =>
          simp only [Option.getD_some, tokens_words, tokens_nil, List.append_nil] at equal
          obtain ⟨same, rests⟩ := spell_repr_append_cancel (starts.breaks noDigits)
            (startsOther.breaks noDigits) equal
          exact ⟨congrArg some (UInt32.toNat_inj.mp same), rests⟩

end Clauses

/-- A read is a clause that starts with its shared writes or its select list. -/
theorem clause_select (select : Select)
    (shared : ∀ entry ∈ select.shared, entry.2.IsDetermined)
    (columns : ∀ entry ∈ select.columns, entry.2.IsDetermined)
    (source : ∀ read name, select.source = some (.select read name) → read.IsDetermined)
    (joins : ∀ join ∈ select.joins, join.condition.IsDetermined)
    (condition : select.condition.IsDetermined)
    (ordering : ∀ entry ∈ select.ordering, entry.1.IsDetermined) :
    Clause Select.pieces Select.IsWellFormed [")"] ["WITH ", "SELECT "] select := by
  -- From the last clause to the first, each with the words that may follow it.
  have offset := clause_countPieces [")"] " OFFSET " rfl
    rfl rfl select.offset
  have limit := clause_countPieces [" OFFSET ", ")"] " LIMIT " rfl
    rfl rfl select.limit
  have orderBy : Clause orderByPieces (fun ordering => ∀ entry ∈ ordering, entry.1.IsWellFormed)
      [" LIMIT ", " OFFSET ", ")"] [" ORDER BY ", " LIMIT ", " OFFSET ", ")"] select.ordering :=
    isOptional_orderByPieces.clause rfl rfl fun _ =>
      (determined_orderingPieces _ rfl rfl ordering).restrict fun _ valid => valid.1
  have whereClause := clause_conditionPieces
    [" ORDER BY ", " LIMIT ", " OFFSET ", ")"] rfl rfl condition
  have joined := clause_joinPieces
    [" WHERE ", " ORDER BY ", " LIMIT ", " OFFSET ", ")"]
    (by intro kind; cases kind <;> rfl) rfl joins
  have from_ := clause_sourcePieces [" INNER JOIN ", " LEFT OUTER JOIN ", " WHERE ",
    " ORDER BY ", " LIMIT ", " OFFSET ", ")"] rfl source
  have list := determined_columnPieces [" FROM ", " INNER JOIN ", " LEFT OUTER JOIN ",
    " WHERE ", " ORDER BY ", " LIMIT ", " OFFSET ", ")"] rfl rfl columns
  have written : Clause withPieces (fun shared => ∀ entry ∈ shared, entry.2.IsWellFormed)
      ["SELECT "] ["WITH ", "SELECT "] select.shared :=
    isOptional_withPieces.clause rfl rfl fun _ =>
      ((determined_sharedPieces [" "] rfl rfl shared).closed
        rfl).restrict fun _ valid => valid.1
  have whole := written.append ((list.append (from_.append (joined.append (whereClause.append
    (orderBy.append (limit.append offset)))))).worded "SELECT ")
  constructor
  · intro other rest others wellFormed starts startsOther equal
    rw [Select.pieces_eq, Select.pieces_eq] at equal
    cases wellFormed with
    | clauses otherShared otherColumns otherSource otherJoins otherCondition otherOrdering =>
        obtain ⟨same, rests⟩ := whole.determined (other.shared, other.columns, other.source,
          other.joins, other.condition, other.ordering, other.limit, other.offset) rest others
          ⟨otherShared, otherColumns, otherSource, otherJoins, otherCondition, otherOrdering,
            trivial, trivial⟩ starts startsOther equal
        obtain ⟨⟩ := select
        obtain ⟨⟩ := other
        cases same
        exact ⟨rfl, rests⟩
  · intro other rest starts
    rw [Select.pieces_eq]
    exact whole.starts (other.shared, other.columns, other.source, other.joins, other.condition,
      other.ordering, other.limit, other.offset) rest starts

section Writes

variable {rest others : List (Token Param)}

/-- The verb of a write and the table it works on are told by their text. -/
theorem target_append_cancel {verb schema table otherSchema otherTable : String}
    {body otherBody : List Piece}
    (equal : tokens (.words verb :: .identifier schema :: .words "." :: .identifier table :: body) ++
        rest =
      tokens (.words verb :: .identifier otherSchema :: .words "." :: .identifier otherTable ::
        otherBody) ++ others) :
    schema = otherSchema ∧ table = otherTable ∧
      tokens body ++ rest = tokens otherBody ++ others := by
  simp only [tokens_words, tokens_identifier, List.append_assoc, List.cons_append] at equal
  injection List.append_cancel_left equal with schemas tables
  injection schemas with sameSchema
  injection List.append_cancel_left tables with names bodies
  injection names with sameTable
  exact ⟨sameSchema, sameTable, bodies⟩

/-- The `RETURNING` clause is determined if its expressions are. -/
theorem clause_returningPieces {returning : List (String × Expression)}
    (each : ∀ entry ∈ returning, entry.2.IsDetermined) :
    Clause returningPieces (fun returning => ∀ entry ∈ returning, entry.2.IsWellFormed) [")"]
      [" RETURNING ", ")"] returning :=
  isOptional_returningPieces.clause rfl rfl fun _ =>
    (determined_columnPieces _ rfl rfl each).restrict fun _ narrower => narrower.1

/-- The columns of a new row are told from their closing bracket. -/
theorem determined_names (names : List String) :
    Determined (fun names => commaSeparated (names.map fun name => [Piece.identifier name]))
      (fun names => ∀ name ∈ names, True) [")"] names := by
  refine determined_commaSeparated [")"] (fun _ => True) ?_ rfl ?_
  · intro name rest starts
    have isNone := opening_of_startsWith rfl starts
    cases isNone
  · intro name _ other rest others _ _ _ equal
    injection equal with heads tails
    injection heads with same
    exact ⟨same, tails⟩

/-- The columns and values of a new row are told by their text when it has no values
without columns. -/
theorem determined_rowPieces {columns : List String} {values : List Expression}
    {follow : List String} (empty : columns = [] → values = [])
    (each : ∀ value ∈ values, value.IsDetermined) :
    Determined (fun row : List String × List Expression => rowPieces row.1 row.2)
      (fun row => (row.1 = [] → row.2 = []) ∧ ∀ value ∈ row.2, value.IsWellFormed)
      follow (columns, values) := by
  have written : ∀ (column : String) (columns : List String) (values : List Expression)
      (rest : List (Token Param)), tokens (rowPieces (column :: columns) values) ++ rest =
        spell " (" ++ (tokens (commaSeparated ((column :: columns).map fun column =>
          [Piece.identifier column])) ++ (spell ") VALUES (" ++ (tokens
            (commaSeparated (values.map Expression.pieces) ++ [Piece.words ")"]) ++ rest))) := by
    intro column columns values rest
    simp only [rowPieces, List.isEmpty_cons, Bool.false_eq_true, if_false, tokens_words,
      tokens_append, listPieces_eq_map, List.append_assoc]
  have noNames : isApart " DEFAULT VALUES" " (" = true := rfl
  rintro ⟨otherColumns, otherValues⟩ rest others ⟨otherEmpty, wellFormed⟩ starts startsOther equal
  match columns, otherColumns with
  | [], [] =>
      obtain rfl : values = [] := empty rfl
      obtain rfl : otherValues = [] := otherEmpty rfl
      exact ⟨rfl, List.append_cancel_left equal⟩
  | [], column :: otherColumns =>
      simp only [written] at equal
      exact absurd equal (spell_append_ne noNames _ _)
  | column :: columns, [] =>
      simp only [written] at equal
      exact absurd equal.symm (spell_append_ne noNames _ _)
  | column :: columns, otherColumn :: otherColumns =>
      have list := determined_commaSeparated [")"] Expression.IsWellFormed
        (not_startsWith_expression rfl) rfl
        fun value mem => (each value mem).mono rfl
      simp only [written] at equal
      obtain ⟨sameColumns, tails⟩ := determined_names (column :: columns) _ _ _ (fun _ _ => trivial)
        (.spell_append rfl _) (.spell_append rfl _)
        (List.append_cancel_left equal)
      obtain ⟨rfl, rests⟩ := list.closed rfl _ _ _ wellFormed starts startsOther
        (List.append_cancel_left tails)
      rw [sameColumns]
      exact ⟨rfl, rests⟩

/-- An insertion is determined if its parts are, and a row without columns has no values. -/
theorem determined_insertion (row : Insertion) (empty : row.columns = [] → row.values = [])
    (values : ∀ value ∈ row.values, value.IsDetermined)
    (returning : ∀ entry ∈ row.returning, entry.2.IsDetermined) :
    (Mutation.insertion row).IsDetermined := by
  intro other rest others wellFormed starts startsOther equal
  rw [Mutation.pieces, Insertion.pieces_eq] at equal
  cases wellFormed with
  | @insertion other otherEmpty otherValues otherReturning =>
      rw [Mutation.pieces, Insertion.pieces_eq] at equal
      obtain ⟨sameSchema, sameTable, bodies⟩ := target_append_cancel equal
      obtain ⟨same, rests⟩ := ((determined_rowPieces empty values).append
        (clause_returningPieces returning)) ((other.columns, other.values), other.returning) rest
        others ⟨⟨otherEmpty, otherValues⟩, otherReturning⟩ starts startsOther bodies
      obtain ⟨⟩ := row
      obtain ⟨⟩ := other
      cases same
      cases sameSchema
      cases sameTable
      exact ⟨rfl, rests⟩
  | @update other =>
      rw [Mutation.pieces, Update.pieces_eq] at equal
      have apart : isApart "INSERT INTO " "UPDATE " = true := rfl
      exact absurd equal (spell_append_ne apart _ _)

/-- An update is determined if its parts are. -/
theorem determined_update (change : Update)
    (assignments : ∀ entry ∈ change.assignments, entry.2.IsDetermined)
    (condition : change.condition.IsDetermined)
    (returning : ∀ entry ∈ change.returning, entry.2.IsDetermined) :
    (Mutation.update change).IsDetermined := by
  intro other rest others wellFormed starts startsOther equal
  rw [Mutation.pieces, Update.pieces_eq] at equal
  cases wellFormed with
  | @update other otherAssignments otherCondition otherReturning =>
      rw [Mutation.pieces, Update.pieces_eq] at equal
      obtain ⟨sameSchema, sameTable, bodies⟩ := target_append_cancel equal
      have clauses := (determined_assignmentPieces [" WHERE ", " RETURNING ", ")"]
        rfl rfl rfl assignments).append
        ((clause_conditionPieces [" RETURNING ", ")"] rfl rfl
          condition).append (clause_returningPieces returning))
      rw [tokens_words, tokens_words, List.append_assoc, List.append_assoc] at bodies
      obtain ⟨same, rests⟩ := clauses (other.assignments, other.condition, other.returning) rest
        others ⟨otherAssignments, otherCondition, otherReturning⟩ starts startsOther
        (List.append_cancel_left bodies)
      obtain ⟨⟩ := change
      obtain ⟨⟩ := other
      cases same
      cases sameSchema
      cases sameTable
      exact ⟨rfl, rests⟩
  | @insertion other =>
      rw [Mutation.pieces, Insertion.pieces_eq] at equal
      have apart : isApart "UPDATE " "INSERT INTO " = true := rfl
      exact absurd equal (spell_append_ne apart _ _)

end Writes

end CatalogSql.Sql
