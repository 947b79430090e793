import CatalogSql.Proofs.Sql.Scan

/-!
# Numbered parts

What a buffer holds after parts have been added to it, in tokens: the text so far, then
the parts' tokens with their placeholders numbered on from the last number given.
`numbered_injective` recovers the tokens of parts from numbers and values.
-/

namespace CatalogSql.Sql

variable {Value Other : Type}

/-- Tokens with their placeholders numbered on from a number. -/
def numbered (number : Nat) : List (Token Value) → List (Token Nat)
  | [] => []
  | token :: rest =>
      token.map (fun _ => number + 1) ::
        numbered (number + token.placeholder?.toList.length) rest

/-- Numbering goes on where the front ended. -/
theorem numbered_append (number : Nat) (before after : List (Token Value)) :
    numbered number (before ++ after) =
      numbered number before ++ numbered (number + (boundValues before).length) after := by
  induction before generalizing number with
  | nil => simp [numbered]
  | cons token rest ih =>
      simp only [List.cons_append, numbered, ih, boundValues_cons, List.length_append, Nat.add_assoc]

/-- Where nothing is numbered, it does not matter which number comes next. -/
theorem numbered_of_boundValues_nil {tokens : List (Token Value)} (none : boundValues tokens = [])
    (number other : Nat) : numbered number tokens = numbered other tokens := by
  induction tokens generalizing number other with
  | nil => rfl
  | cons token rest ih =>
      rw [boundValues_cons, List.append_eq_nil_iff] at none
      cases token with
      | placeholder value => cases none.1
      | _ => exact congrArg (_ :: ·) (ih none.2 _ _)

/-- The numbers are consecutive, one for each bound value. -/
theorem boundValues_numbered (number : Nat) (tokens : List (Token Value)) :
    boundValues (numbered number tokens) = List.range' (number + 1) (boundValues tokens).length := by
  induction tokens generalizing number with
  | nil => rfl
  | cons token rest ih =>
      rw [numbered, boundValues_cons, ih, boundValues_cons]
      cases token with
      | placeholder value => simp [Token.map, Token.placeholder?, List.range'_succ]
      | character value => rfl
      | identifier name => rfl
      | literal text => rfl

/-- Shifting every number is numbering from the shifted start. -/
theorem map_numbered (shift number : Nat) (tokens : List (Token Value)) :
    (numbered number tokens).map (Token.map (shift + ·)) = numbered (shift + number) tokens := by
  induction tokens generalizing number with
  | nil => rfl
  | cons token rest ih =>
      rw [numbered, List.map_cons, ih, numbered, ← Nat.add_assoc shift]
      congr 1
      cases token <;> rfl

/-- Numbered tokens with the values bound to the numbers determine the tokens. -/
theorem numbered_injective {number : Nat} {left right : List (Token Value)}
    (tokens : numbered number left = numbered number right)
    (values : boundValues left = boundValues right) : left = right := by
  induction left generalizing number right with
  | nil =>
      cases right with
      | nil => rfl
      | cons => simp [numbered] at tokens
  | cons first rest ih =>
      cases right with
      | nil => simp [numbered] at tokens
      | cons other others =>
          simp only [numbered, List.cons.injEq] at tokens
          obtain ⟨heads, tails⟩ := tokens
          have firsts : first = other ∧ boundValues rest = boundValues others := by
            cases first <;> cases other <;> simp_all [Token.map, Token.placeholder?]
          obtain ⟨rfl, remaining⟩ := firsts
          rw [ih tails remaining]

@[simp] theorem Token.isPlain_map (change : Value → Other) (token : Token Value) :
    (token.map change).IsPlain ↔ token.IsPlain := by
  cases token <;> rfl

@[simp] theorem Token.isBreak_map (change : Value → Other) (token : Token Value) :
    (token.map change).IsBreak ↔ token.IsBreak := by
  cases token <;> rfl

/-- Numbering keeps tokens apart. -/
theorem Separated.numbered {tokens : List (Token Value)} (separated : Separated tokens)
    (number : Nat) : Separated (numbered number tokens) := by
  induction tokens generalizing number with
  | nil => exact .nil
  | cons token rest ih =>
      have following := ih separated.tail (number + token.placeholder?.toList.length)
      have plain := separated.plain token (by simp)
      cases rest with
      | nil => exact .singleton ((Token.isPlain_map _ token).mpr plain)
      | cons next rest =>
          have chained := (List.isChain_cons_cons.mp separated.chained).1
          refine ⟨?_, List.isChain_cons_cons.mpr ⟨?_, following.chained⟩⟩
          · intro other mem
            rcases List.mem_cons.mp mem with rfl | inRest
            · exact (Token.isPlain_map _ token).mpr plain
            · exact following.plain other inRest
          · rcases chained with ⟨value, rfl⟩ | isBreak
            · exact .inl ⟨value, rfl⟩
            · exact .inr ((Token.isBreak_map _ next).mpr isBreak)

/-- The tokens of a part. -/
def Piece.tokens : Piece → List (Token Param)
  | .words text => text.toList.map .character
  | .identifier name => [.identifier name]
  | .literal text => [.literal text]
  | .param value => [.placeholder value]

/-- The tokens of parts, one after another. -/
def tokens (pieces : List Piece) : List (Token Param) := pieces.flatMap Piece.tokens

@[simp] theorem tokens_nil : tokens [] = [] := rfl

@[simp] theorem tokens_cons (piece : Piece) (rest : List Piece) :
    tokens (piece :: rest) = piece.tokens ++ tokens rest := rfl

@[simp] theorem tokens_append (before after : List Piece) :
    tokens (before ++ after) = tokens before ++ tokens after := List.flatMap_append

@[simp] theorem boundValues_characters (text : List Char) :
    boundValues (text.map (.character : Char → Token Value)) = [] := by
  induction text with
  | nil => rfl
  | cons first rest ih => exact ih

/-- A piece binds its parameter, if it has one. -/
theorem Piece.boundValues_tokens (piece : Piece) :
    boundValues piece.tokens = piece.param?.toList := by
  cases piece with
  | words text => exact boundValues_characters text.toList
  | identifier name => rfl
  | literal text => rfl
  | param value => rfl

/-- The tokens of pieces bind their parameters in order. -/
theorem boundValues_tokens (pieces : List Piece) :
    boundValues (tokens pieces) = pieces.filterMap Piece.param? := by
  induction pieces with
  | nil => rfl
  | cons piece rest ih =>
      rw [tokens_cons, boundValues_append, ih, piece.boundValues_tokens]
      cases piece <;> rfl

/-- Characters are not numbered. -/
theorem numbered_characters (number : Nat) (text : List Char) :
    numbered number (text.map (.character : Char → Token Value)) = text.map .character := by
  induction text with
  | nil => rfl
  | cons first rest ih => simp [numbered, Token.map, Token.placeholder?, ih]

/-- Characters are written as they stand. -/
theorem flatMap_written_characters (text : List Char) :
    (text.map Token.character).flatMap Token.written = text := by
  induction text with
  | nil => rfl
  | cons first rest ih => simp [Token.written, ih]

namespace Prepared

/-- What adding a part does to a buffer. -/
theorem append_eq (buffer : Prepared) (piece : Piece) :
    (buffer.append piece).text.toList =
        buffer.text.toList ++ (numbered buffer.lastNumber piece.tokens).flatMap Token.written ∧
      (buffer.append piece).params = buffer.params ++ piece.param?.toList ∧
      (buffer.append piece).lastNumber = buffer.lastNumber + piece.param?.toList.length := by
  cases piece with
  | words text =>
      simp [append, Piece.characters, Piece.param?, Piece.tokens, numbered_characters,
        flatMap_written_characters]
  | identifier name =>
      simp [append, Piece.characters, Piece.param?, Piece.tokens, numbered, Token.map, Token.written]
  | literal text =>
      simp [append, Piece.characters, Piece.param?, Piece.tokens, numbered, Token.map, Token.written]
  | param value =>
      simp [append, Piece.characters, Piece.param?, Piece.tokens, numbered, Token.map, Token.written]

/-- What adding parts does to a buffer: the text and the values so far stay in front. -/
theorem appendAll_eq (buffer : Prepared) (pieces : List Piece) :
    (buffer.appendAll pieces).text.toList =
        buffer.text.toList ++
          (numbered buffer.lastNumber (Sql.tokens pieces)).flatMap Token.written ∧
      (buffer.appendAll pieces).params = buffer.params ++ pieces.filterMap Piece.param? ∧
      (buffer.appendAll pieces).lastNumber =
        buffer.lastNumber + (pieces.filterMap Piece.param?).length := by
  induction pieces generalizing buffer with
  | nil => simp [appendAll, numbered]
  | cons piece rest ih =>
      obtain ⟨text, params, lastNumber⟩ := append_eq buffer piece
      obtain ⟨restText, restParams, restNumber⟩ := ih (buffer.append piece)
      have split : (piece :: rest).filterMap Piece.param? =
          piece.param?.toList ++ rest.filterMap Piece.param? := by
        cases piece <;> rfl
      have step : buffer.appendAll (piece :: rest) = (buffer.append piece).appendAll rest := rfl
      rw [step, restText, restParams, restNumber, text, params, lastNumber, split, tokens_cons,
        numbered_append, piece.boundValues_tokens]
      simp [List.append_assoc, Nat.add_assoc]

end Prepared

end CatalogSql.Sql
