import CatalogSql.Proofs.Sql.Follow

/-!
# How expressions open

The first tokens of an expression tell its kind, and what may follow an expression opens
none. Constants and names, the expressions without parts, are settled by their first
tokens alone.
-/

namespace CatalogSql.Sql

/-- What the first tokens of a text say about an expression that starts there. Of a
constant they tell which one it is, unless it is a number in the text. -/
inductive Opening where
  | group
  | call (function : Function)
  | epoch
  | rowToJson
  | column
  | constant (known : Option Constant)
  | cast
  | none

/-- The constant a placeholder stands for. -/
def Param.constant : Param → Constant
  | .string value => .string value
  | .integer value => .integer value
  | .double value => .double value
  | .json value => .json value

/-- The opening of a text that starts with characters. -/
def opening.ofWords : Char → List (Token Param) → Opening
  | '(', _ => .group
  | 's', _ => .call .strpos
  | 't', .character 'o' :: .character '_' :: .character 'c' :: _ => .call .toChar
  | 't', .character 'o' :: .character '_' :: .character 't' :: _ => .call .toTimestamp
  | 't', .character 'r' :: _ => .constant (some (.boolean true))
  | 'f', _ => .constant (some (.boolean false))
  | 'N', _ => .constant (some .null)
  | 'E', _ => .epoch
  | 'r', _ => .rowToJson
  | 'c', _ => .cast
  | _, _ => .none

/-- The opening of a text. -/
def opening : List (Token Param) → Opening
  | [] => .none
  | .identifier _ :: _ => .column
  | .literal text :: _ => .constant (some (.literal text))
  | .placeholder value :: _ => .constant (some value.constant)
  | .character first :: rest =>
      if first.isDigit || first == '-' then .constant none else opening.ofWords first rest

namespace Constant

/-- A constant that its opening tells. -/
def known : Constant → Option Constant
  | .small _ => none
  | value => some value

end Constant

namespace Expression

/-- The opening of an expression's text. -/
def opening : Expression → Opening
  | .conjunction _ _ | .comparison _ _ _ | .isNull _ | .inSelect _ _ => .group
  | .call function _ => .call function
  | .epoch _ => .epoch
  | .rowToJson _ => .rowToJson
  | .column _ => .column
  | .constant value => .constant value.known
  | .cast _ _ => .cast

end Expression

/-- A constant opens with what is known of it. -/
theorem opening_constant (value : Constant) (rest : List (Token Param)) :
    opening (tokens [value.piece] ++ rest) = .constant value.known := by
  cases value with
  | small value =>
      obtain ⟨digit, tail, shape, isDigit⟩ := spell_repr_head value.toInt.toNat
      have words : tokens [(Constant.small value).piece] = spell (toString value.toInt) := by
        simp [Constant.piece, Piece.tokens, spell]
      rw [words, spell_toString_int]
      split
      · rw [shape, List.cons_append, opening, isDigit]
        rfl
      · rfl
  | boolean value => cases value <;> rfl
  | integer value => rfl
  | double value => rfl
  | string value => rfl
  | null => rfl
  | json value => rfl
  | literal text => rfl

/-- An expression's text opens with the kind of the expression. -/
theorem opening_expression (expression : Expression) (rest : List (Token Param)) :
    opening (tokens expression.pieces ++ rest) = expression.opening := by
  cases expression with
  | constant value => exact opening_constant value rest
  | call function arguments => cases function <;> rfl
  | column reference =>
      cases reference with
      | plain name => rfl
      | qualified table name => cases table <;> rfl
  | conjunction left right => rfl
  | comparison left operator right => rfl
  | isNull operand => rfl
  | inSelect left select => rfl
  | epoch operand => rfl
  | rowToJson table => rfl
  | cast operand type => rfl

/-- Whether a word starts like no expression. -/
def isEnding (word : String) : Bool :=
  word.toList.head?.any fun first => first == ' ' || first == ',' || first == ')'

/-- What ends an expression opens none. -/
theorem opening_of_startsWith {words : List String} {rest : List (Token Param)}
    (ending : words.all isEnding = true) (starts : StartsWith words rest) :
    opening rest = .none := by
  rcases starts with rfl | ⟨word, mem, others, rfl⟩
  · rfl
  · have isLast := List.all_eq_true.mp ending word mem
    cases shape : word.toList with
    | nil => simp [isEnding, shape] at isLast
    | cons first tail =>
        simp only [isEnding, shape, List.head?_cons, Option.any_some, Bool.or_eq_true,
          beq_iff_eq] at isLast
        rw [spell, shape]
        rcases isLast with (rfl | rfl) | rfl <;> rfl

/-- No expression starts like what may follow one. -/
theorem not_startsWith_expression {words : List String} (ending : words.all isEnding = true)
    (expression : Expression) (rest : List (Token Param)) :
    ¬ StartsWith words (tokens expression.pieces ++ rest) := by
  intro starts
  have isNone := opening_of_startsWith ending starts
  rw [opening_expression] at isNone
  cases expression <;> cases isNone

/-- Constants with one opening are equal or both numbers of the text. -/
theorem Constant.eq_or_small {value other : Constant} (known : value.known = other.known) :
    value = other ∨ ∃ number otherNumber, value = .small number ∧ other = .small otherNumber := by
  cases value with
  | small number =>
      cases other with
      | small otherNumber => exact .inr ⟨number, otherNumber, rfl, rfl⟩
      | _ => cases known
  | _ =>
      cases other with
      | small otherNumber => cases known
      | _ => exact .inl (Option.some.inj known)

/-- A small number is spelled in decimal digits with its sign. -/
theorem tokens_small (number : Int32) :
    tokens [(Constant.small number).piece] = spell (toString number.toInt) := by
  rw [Constant.piece, tokens_words, tokens_nil, List.append_nil]

/-- A constant is told by its text when no digit follows it. -/
theorem determined_constant {follow : List String}
    (noDigits : follow.all breaksNumber = true)
    (value : Constant) :
    Determined (fun value : Constant => [value.piece]) (fun _ => True) follow value := by
  intro other rest others _ starts startsOther equal
  have openings : Opening.constant value.known = .constant other.known := by
    rw [← opening_constant value rest, ← opening_constant other others]
    exact congrArg opening equal
  injection openings with known
  rcases Constant.eq_or_small known with rfl | ⟨number, otherNumber, rfl, rfl⟩
  · exact ⟨rfl, List.append_cancel_left equal⟩
  · simp only [tokens_small] at equal
    obtain ⟨same, rests⟩ :=
      spell_int_append_cancel (starts.breaks noDigits) (startsOther.breaks noDigits) equal
    exact ⟨congrArg Constant.small (Int32.toInt_inj.mp same), rests⟩

section Names

/-- Names with a dot between neighbours. -/
def dotted (first : String) (rest : List String) : List Piece :=
  .identifier first :: rest.flatMap fun name => [.words ".", .identifier name]

theorem tokens_dotted_nil (first : String) (rest : List (Token Param)) :
    tokens (dotted first []) ++ rest = .identifier first :: rest := rfl

theorem tokens_dotted_cons (first next : String) (names : List String) (rest : List (Token Param)) :
    tokens (dotted first (next :: names)) ++ rest =
      .identifier first :: (spell "." ++ (tokens (dotted next names) ++ rest)) := rfl

/-- Equal texts that begin with dotted names begin with the same ones where no dot follows. -/
theorem dotted_append_cancel {follow : List String} (noDot : follow.all (isApart ".") = true)
    {first other : String} {names otherNames : List String} {rest others : List (Token Param)}
    (starts : StartsWith follow rest) (startsOther : StartsWith follow others)
    (equal : tokens (dotted first names) ++ rest = tokens (dotted other otherNames) ++ others) :
    first = other ∧ names = otherNames ∧ rest = others := by
  have noStart : ∀ remaining, ¬ StartsWith follow (spell "." ++ remaining) :=
    StartsWith.not_spell_append noDot rfl
  induction names generalizing first other otherNames with
  | nil =>
      cases otherNames with
      | nil =>
          rw [tokens_dotted_nil, tokens_dotted_nil] at equal
          injection equal with heads tails
          injection heads with same
          exact ⟨same, rfl, tails⟩
      | cons next otherNames =>
          rw [tokens_dotted_nil, tokens_dotted_cons] at equal
          injection equal with _ tails
          exact absurd (tails ▸ starts) (noStart _)
  | cons name names ih =>
      cases otherNames with
      | nil =>
          rw [tokens_dotted_nil, tokens_dotted_cons] at equal
          injection equal with _ tails
          exact absurd (tails.symm ▸ startsOther) (noStart _)
      | cons next otherNames =>
          rw [tokens_dotted_cons, tokens_dotted_cons] at equal
          injection equal with heads tails
          injection heads with same
          obtain ⟨rfl, rfl, rests⟩ := ih (List.append_cancel_left tails)
          exact ⟨same, rfl, rests⟩

/-- A table is told by its name when no dot follows it. -/
theorem determined_table (follow : List String) (noDot : follow.all (isApart ".") = true)
    (table : TableReference) : Determined TableReference.pieces (fun _ => True) follow table := by
  have written : ∀ table : TableReference, ∃ first names, table.pieces = dotted first names ∧
      table = names.head?.elim (.aliased first) (.stored first) := by
    intro table
    cases table with
    | stored schema name => exact ⟨schema, [name], rfl, rfl⟩
    | aliased name => exact ⟨name, [], rfl, rfl⟩
  intro other rest others _ starts startsOther equal
  obtain ⟨first, names, shape, isTable⟩ := written table
  obtain ⟨otherFirst, otherNames, otherShape, isOther⟩ := written other
  rw [shape, otherShape] at equal
  obtain ⟨rfl, rfl, rests⟩ := dotted_append_cancel noDot starts startsOther equal
  exact ⟨isTable.trans isOther.symm, rests⟩

/-- A column is told by its name when no dot follows it. -/
theorem determined_column {follow : List String} (noDot : follow.all (isApart ".") = true)
    (column : ColumnReference) : Determined ColumnReference.pieces (fun _ => True) follow column := by
  have written : ∀ column : ColumnReference, ∃ first names, column.pieces = dotted first names ∧
      column = match names with
        | [] => .plain first
        | [name] => .qualified (.aliased first) name
        | table :: name :: _ => .qualified (.stored first table) name := by
    intro column
    match column with
    | .plain name => exact ⟨name, [], rfl, rfl⟩
    | .qualified (.aliased table) name => exact ⟨table, [name], rfl, rfl⟩
    | .qualified (.stored schema table) name => exact ⟨schema, [table, name], rfl, rfl⟩
  intro other rest others _ starts startsOther equal
  obtain ⟨first, names, shape, isColumn⟩ := written column
  obtain ⟨otherFirst, otherNames, otherShape, isOther⟩ := written other
  rw [shape, otherShape] at equal
  obtain ⟨rfl, rfl, rests⟩ := dotted_append_cancel noDot starts startsOther equal
  exact ⟨isColumn.trans isOther.symm, rests⟩

end Names

end CatalogSql.Sql
