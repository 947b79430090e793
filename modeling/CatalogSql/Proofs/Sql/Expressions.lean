import CatalogSql.Proofs.Sql.Opening
import CatalogSql.Proofs.Sql.WellFormed

/-!
# Determined expressions

Every kind of well-formed expression is determined when its parts are: its opening tells the
kind, and the words around the parts keep them apart.
-/

namespace CatalogSql.Sql

/-- The words that may follow an expression start with these. -/
def afterExpression : List String := [", ", ")", " "]

/-- An expression is told from the words that may follow it. -/
abbrev Expression.IsDetermined (expression : Expression) : Prop :=
  Determined Expression.pieces Expression.IsWellFormed afterExpression expression

/-- A nested read is told from its closing bracket. -/
abbrev Select.IsDetermined (select : Select) : Prop :=
  Determined Select.pieces Select.IsWellFormed [")"] select

/-- A nested write is told from its closing bracket. -/
abbrev Mutation.IsDetermined (mutation : Mutation) : Prop :=
  Determined Mutation.pieces Mutation.IsWellFormed [")"] mutation

/-- Expressions that begin with the same tokens open in the same way. -/
theorem opening_eq {left right : Expression} {rest others : List (Token Param)}
    (equal : tokens left.pieces ++ rest = tokens right.pieces ++ others) :
    left.opening = right.opening := by
  rw [← opening_expression left rest, ← opening_expression right others, equal]

/-- Parts before a word are determined whatever follows the word. -/
theorem Determined.closed {Element : Type} {render : Element → List Piece} {valid : Element → Prop}
    {inner follow : List String} {element : Element}
    (determined : Determined render valid inner element) {word : String}
    (covered : covers inner [word] = true) :
    Determined (fun element => render element ++ [.words word]) valid follow element := by
  intro other rest others isValid _ _ equal
  simp only [tokens_append, List.append_assoc, tokens_words, tokens_nil, List.nil_append] at equal
  obtain ⟨same, tails⟩ := determined other _ _ isValid (.spell_append covered rest)
    (.spell_append covered others) equal
  exact ⟨same, List.append_cancel_left tails⟩

/-- Parts before a word and a name are determined whatever follows the name. -/
theorem Determined.cancel_named {Element : Type} {render : Element → List Piece}
    {valid : Element → Prop} {inner : List String} {element other : Element} {name otherName : String}
    {rest others : List (Token Param)} (determined : Determined render valid inner element)
    {word : String} (covered : covers inner [word] = true) (isValid : valid other)
    (equal : tokens (render element) ++ (spell word ++ .identifier name :: rest) =
      tokens (render other) ++ (spell word ++ .identifier otherName :: others)) :
    element = other ∧ name = otherName ∧ rest = others := by
  obtain ⟨same, tails⟩ := determined other _ _ isValid (.spell_append covered _)
    (.spell_append covered _) equal
  injection List.append_cancel_left tails with names rests
  injection names with sameName
  exact ⟨same, sameName, rests⟩

section Groups

/-- An expression in brackets: its first operand, the word after it and the parts after the
word. -/
inductive IsGroup : Expression → Expression → String → List Piece → Prop where
  | conjunction (left right : Expression) :
      IsGroup (.conjunction left right) left " AND " (right.pieces ++ [.words ")"])
  | comparison (left : Expression) (operator : Comparison) (right : Expression) :
      IsGroup (.comparison left operator right) left operator.words (right.pieces ++ [.words ")"])
  | isNull (operand : Expression) : IsGroup (.isNull operand) operand " IS NULL" [.words ")"]
  | inSelect (left : Expression) (select : Select) :
      IsGroup (.inSelect left select) left " IN (" (select.pieces ++ [.words "))"])

/-- The words after the first operand of an expression in brackets. -/
def groupWords : List String := [" AND ", " = ", " < ", " > ", " IS NULL", " IN ("]

/-- The words behind the first operand of a group are told apart at their beginning. -/
theorem groupWords_apart :
    ∀ word ∈ groupWords, ∀ other ∈ groupWords, word ≠ other → isApart word other = true := by
  decide

namespace IsGroup

variable {expression operand other otherOperand : Expression} {word otherWord : String}
  {tail otherTail : List Piece} {rest others : List (Token Param)}

/-- An expression that opens with a parenthesis is a group. -/
theorem exists_of_opening (isGroup : expression.opening = .group) :
    ∃ operand word tail, IsGroup expression operand word tail := by
  cases expression with
  | conjunction left right => exact ⟨_, _, _, .conjunction left right⟩
  | comparison left operator right => exact ⟨_, _, _, .comparison left operator right⟩
  | isNull operand => exact ⟨_, _, _, .isNull operand⟩
  | inSelect left select => exact ⟨_, _, _, .inSelect left select⟩
  | _ => cases isGroup

/-- A group opens with a parenthesis. -/
theorem opening_eq (group : IsGroup expression operand word tail) :
    expression.opening = .group := by
  cases group <;> rfl

/-- The pieces of a group are its parenthesis, first operand, word and tail. -/
theorem pieces_eq (group : IsGroup expression operand word tail) :
    expression.pieces = .words "(" :: (operand.pieces ++ .words word :: tail) := by
  cases group <;> rfl

/-- The word behind the first operand is one of the words of groups. -/
theorem word_mem (group : IsGroup expression operand word tail) : word ∈ groupWords := by
  cases group with
  | comparison left operator right => cases operator <;> decide
  | _ => decide

/-- The first operand of a well-formed group is well-formed. -/
theorem operand_isWellFormed (group : IsGroup expression operand word tail)
    (wellFormed : expression.IsWellFormed) : operand.IsWellFormed := by
  cases group with
  | conjunction => exact (Expression.isWellFormed_conjunction.mp wellFormed).1
  | comparison => exact (Expression.isWellFormed_comparison.mp wellFormed).1
  | isNull => exact Expression.isWellFormed_isNull.mp wellFormed
  | inSelect => exact (Expression.isWellFormed_inSelect.mp wellFormed).1

/-- Equal texts of a group and another expression have equal operands, equal words and equal
remainders. -/
theorem append_cancel (group : IsGroup expression operand word tail)
    (determined : operand.IsDetermined) (wellFormed : other.IsWellFormed)
    (equal : tokens expression.pieces ++ rest = tokens other.pieces ++ others) :
    ∃ otherTail, IsGroup other operand word otherTail ∧
      tokens tail ++ rest = tokens otherTail ++ others := by
  obtain ⟨otherOperand, otherWord, otherTail, otherGroup⟩ :=
    exists_of_opening ((CatalogSql.Sql.opening_eq equal).symm.trans group.opening_eq)
  have spaced : ∀ word ∈ groupWords, covers afterExpression [word] = true := by decide
  rw [group.pieces_eq, otherGroup.pieces_eq] at equal
  simp only [tokens_words, tokens_append, List.append_assoc] at equal
  obtain ⟨rfl, tails⟩ := determined otherOperand _ _ (otherGroup.operand_isWellFormed wellFormed)
    (.spell_append (spaced word group.word_mem) _)
    (.spell_append (spaced otherWord otherGroup.word_mem) _) (List.append_cancel_left equal)
  obtain rfl : word = otherWord := by
    by_contra differ
    exact spell_append_ne
      (groupWords_apart word group.word_mem otherWord otherGroup.word_mem differ) _ _ tails
  exact ⟨otherTail, otherGroup, List.append_cancel_left tails⟩

end IsGroup

end Groups

section Expressions

variable {left right operand : Expression} {select : Select}

/-- A conjunction is determined if its sides are. -/
theorem determined_conjunction (first : left.IsDetermined) (second : right.IsDetermined) :
    (Expression.conjunction left right).IsDetermined := by
  intro other rest others wellFormed starts startsOther equal
  obtain ⟨otherTail, group, tails⟩ :=
    (IsGroup.conjunction left right).append_cancel first wellFormed equal
  generalize joined : " AND " = word at group
  cases group with
  | conjunction _ otherRight =>
      obtain ⟨-, rightWellFormed⟩ := Expression.isWellFormed_conjunction.mp wellFormed
      obtain ⟨rfl, rests⟩ := second.closed rfl otherRight _ _ rightWellFormed
        starts startsOther tails
      exact ⟨rfl, rests⟩
  | comparison _ operator _ => cases operator <;> exact absurd joined (by decide)
  | isNull => exact absurd joined (by decide)
  | inSelect => exact absurd joined (by decide)

/-- No two comparisons are spelled alike. -/
theorem Comparison.words_injective : Function.Injective Comparison.words := by
  intro first second equal
  cases first <;> cases second <;> first | rfl | exact absurd equal (by decide)

/-- A comparison is determined if its sides are. -/
theorem determined_comparison (operator : Comparison) (first : left.IsDetermined)
    (second : right.IsDetermined) : (Expression.comparison left operator right).IsDetermined := by
  intro other rest others wellFormed starts startsOther equal
  obtain ⟨otherTail, group, tails⟩ :=
    (IsGroup.comparison left operator right).append_cancel first wellFormed equal
  generalize joined : operator.words = word at group
  cases group with
  | comparison _ otherOperator otherRight =>
      obtain ⟨-, rightWellFormed⟩ := Expression.isWellFormed_comparison.mp wellFormed
      obtain ⟨rfl, rests⟩ := second.closed rfl otherRight _ _ rightWellFormed
        starts startsOther tails
      obtain rfl := Comparison.words_injective joined
      exact ⟨rfl, rests⟩
  | conjunction => cases operator <;> exact absurd joined (by decide)
  | isNull => cases operator <;> exact absurd joined (by decide)
  | inSelect => cases operator <;> exact absurd joined (by decide)

/-- A test for null is determined if its operand is. -/
theorem determined_isNull (inner : operand.IsDetermined) :
    (Expression.isNull operand).IsDetermined := by
  intro other rest others wellFormed starts startsOther equal
  obtain ⟨otherTail, group, tails⟩ := (IsGroup.isNull operand).append_cancel inner wellFormed equal
  generalize joined : " IS NULL" = word at group
  cases group with
  | isNull => exact ⟨rfl, List.append_cancel_left tails⟩
  | comparison _ operator _ => cases operator <;> exact absurd joined (by decide)
  | conjunction => exact absurd joined (by decide)
  | inSelect => exact absurd joined (by decide)

/-- A membership test is determined if its sides are. -/
theorem determined_inSelect (first : left.IsDetermined) (second : select.IsDetermined) :
    (Expression.inSelect left select).IsDetermined := by
  intro other rest others wellFormed starts startsOther equal
  obtain ⟨otherTail, group, tails⟩ :=
    (IsGroup.inSelect left select).append_cancel first wellFormed equal
  generalize joined : " IN (" = word at group
  cases group with
  | inSelect _ otherSelect =>
      obtain ⟨-, selectWellFormed⟩ := Expression.isWellFormed_inSelect.mp wellFormed
      obtain ⟨rfl, rests⟩ := second.closed rfl otherSelect _ _ selectWellFormed
        starts startsOther tails
      exact ⟨rfl, rests⟩
  | comparison _ operator _ => cases operator <;> exact absurd joined (by decide)
  | conjunction => exact absurd joined (by decide)
  | isNull => exact absurd joined (by decide)

/-- A call is determined if its arguments are. -/
theorem determined_call (function : Function) {arguments : List Expression}
    (each : ∀ argument ∈ arguments, argument.IsDetermined) :
    (Expression.call function arguments).IsDetermined := by
  intro other rest others wellFormed starts startsOther equal
  have openings := opening_eq equal
  cases wellFormed with
  | call otherFunction argumentsWellFormed =>
      injection openings with sameFunction
      subst sameFunction
      have list := determined_commaSeparated [")"] Expression.IsWellFormed
        (not_startsWith_expression rfl) rfl
        fun argument mem => (each argument mem).mono rfl
      simp only [Expression.pieces, listPieces_eq_map, tokens_words, List.append_assoc] at equal
      obtain ⟨rfl, rests⟩ := list.closed rfl _ _ _ argumentsWellFormed starts startsOther
        (List.append_cancel_left (List.append_cancel_left equal))
      exact ⟨rfl, rests⟩
  | _ => cases openings

/-- An epoch is determined if its operand is. -/
theorem determined_epoch (inner : operand.IsDetermined) :
    (Expression.epoch operand).IsDetermined := by
  intro other rest others wellFormed starts startsOther equal
  have openings := opening_eq equal
  cases wellFormed with
  | epoch operandWellFormed =>
      simp only [Expression.pieces, tokens_words, List.append_assoc] at equal
      obtain ⟨rfl, rests⟩ := inner.closed rfl _ _ _ operandWellFormed starts startsOther
        (List.append_cancel_left equal)
      exact ⟨rfl, rests⟩
  | _ => cases openings

/-- A row as json is determined. -/
theorem determined_rowToJson (table : TableReference) :
    (Expression.rowToJson table).IsDetermined := by
  intro other rest others wellFormed starts startsOther equal
  have openings := opening_eq equal
  cases wellFormed with
  | rowToJson otherTable =>
      simp only [Expression.pieces, tokens_words, List.append_assoc] at equal
      have name := determined_table [")"] rfl table
      obtain ⟨rfl, rests⟩ := name.closed rfl _ _ _ trivial starts startsOther
        (List.append_cancel_left equal)
      exact ⟨rfl, rests⟩
  | _ => cases openings

/-- A column is determined. -/
theorem determined_columnExpression (reference : ColumnReference) :
    (Expression.column reference).IsDetermined := by
  intro other rest others wellFormed starts startsOther equal
  have openings := opening_eq equal
  cases wellFormed with
  | column otherReference =>
      obtain ⟨rfl, rests⟩ :=
        determined_column rfl reference _ _ _ trivial starts startsOther equal
      exact ⟨rfl, rests⟩
  | _ => cases openings

/-- A constant is determined. -/
theorem determined_constantExpression (value : Constant) :
    (Expression.constant value).IsDetermined := by
  intro other rest others wellFormed starts startsOther equal
  have openings := opening_eq equal
  cases wellFormed with
  | constant otherValue =>
      obtain ⟨rfl, rests⟩ :=
        determined_constant rfl value _ _ _ trivial starts startsOther equal
      exact ⟨rfl, rests⟩
  | _ => cases openings

/-- A cast is determined if its operand is. -/
theorem determined_cast (type : String) (inner : operand.IsDetermined) :
    (Expression.cast operand type).IsDetermined := by
  intro other rest others wellFormed starts startsOther equal
  have openings := opening_eq equal
  cases wellFormed with
  | cast otherType operandWellFormed =>
      simp only [Expression.pieces, tokens_words, tokens_append, tokens_identifier, tokens_nil,
        List.append_assoc] at equal
      obtain ⟨rfl, rfl, rests⟩ := inner.cancel_named rfl operandWellFormed
        (List.append_cancel_left equal)
      exact ⟨rfl, List.append_cancel_left rests⟩
  | _ => cases openings

end Expressions

end CatalogSql.Sql
