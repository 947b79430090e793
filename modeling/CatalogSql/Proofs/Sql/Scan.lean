import CatalogSql.Sql.Prepared
import Mathlib.Data.List.Chain

/-!
# Scanned statement text

A statement's text is scanned from left to right into quoted names, quoted literals,
placeholders and single characters. `scan_written` recovers every sequence of tokens
from its text when no two neighbours run together, whatever the quoted parts hold.
-/

namespace CatalogSql.Sql

/-- A token of a statement's text, with a value for every placeholder. -/
inductive Token (Value : Type) where
  | character (value : Char)
  | identifier (name : String)
  | literal (text : String)
  | placeholder (value : Value)
deriving DecidableEq, Repr

namespace Token

variable {Value Other : Type}

/-- Replaces the values of placeholders. -/
def map (change : Value → Other) : Token Value → Token Other
  | .character value => .character value
  | .identifier name => .identifier name
  | .literal text => .literal text
  | .placeholder value => .placeholder (change value)

/-- The value of a placeholder. -/
def placeholder? : Token Value → Option Value
  | .placeholder value => some value
  | _ => none

/-- The text of a token. -/
def written : Token Nat → List Char
  | .character value => [value]
  | .identifier name => quote '"' name
  | .literal text => quote '\'' text
  | .placeholder number => '$' :: Nat.toDigits 10 number

end Token

variable {Value Other : Type}

/-- The values of placeholders, from left to right. -/
def boundValues (tokens : List (Token Value)) : List Value :=
  tokens.filterMap Token.placeholder?

@[simp] theorem boundValues_nil : boundValues ([] : List (Token Value)) = [] := rfl

@[simp] theorem boundValues_cons (token : Token Value) (rest : List (Token Value)) :
    boundValues (token :: rest) = token.placeholder?.toList ++ boundValues rest := by
  cases token <;> rfl

@[simp] theorem boundValues_append (before after : List (Token Value)) :
    boundValues (before ++ after) = boundValues before ++ boundValues after :=
  List.filterMap_append

/-- What a quoted part holds after its opening mark, and the text after the part. A mark
written twice stands for itself; without a closing mark the part takes the whole text. -/
def unquote (mark : Char) : List Char → List Char × List Char
  | [] => ([], [])
  | [last] => (if last = mark then [] else [last], [])
  | first :: second :: rest =>
      if first = mark then
        if second = mark then
          let (held, remaining) := unquote mark rest
          (mark :: held, remaining)
        else ([], second :: rest)
      else
        let (held, remaining) := unquote mark (second :: rest)
        (first :: held, remaining)

/-- What is left behind a quoted text is no longer than the text. -/
theorem length_unquote_le (mark : Char) (text : List Char) :
    (unquote mark text).2.length ≤ text.length := by
  fun_induction unquote mark text with
  | case1 => simp
  | case2 => simp
  | case3 rest held remaining equal ih =>
      rw [equal] at ih
      simp only [List.length_cons] at ih ⊢
      omega
  | case4 => simp
  | case5 first second rest differs held remaining equal ih =>
      rw [equal] at ih
      simp only [List.length_cons] at ih ⊢
      omega

/-- The tokens of a text. A dollar sign and the digits after it are a placeholder;
quoted parts are skipped as a whole. -/
def scan (text : List Char) : List (Token Nat) :=
  match text with
  | [] => []
  | first :: rest =>
      if first = '"' then
        .identifier (String.ofList (unquote '"' rest).1) :: scan (unquote '"' rest).2
      else if first = '\'' then
        .literal (String.ofList (unquote '\'' rest).1) :: scan (unquote '\'' rest).2
      else if first = '$' ∧ rest.takeWhile Char.isDigit ≠ [] then
        .placeholder (Nat.ofDigitChars 10 (rest.takeWhile Char.isDigit) 0) ::
          scan (rest.dropWhile Char.isDigit)
      else .character first :: scan rest
termination_by text.length
decreasing_by
  · exact Nat.lt_succ_of_le (length_unquote_le '"' rest)
  · exact Nat.lt_succ_of_le (length_unquote_le '\'' rest)
  · exact Nat.lt_succ_of_le ((List.dropWhile_sublist _).length_le)
  · exact Nat.lt_succ_self rest.length

/-- The numbers of the placeholders outside quoted parts, from left to right. -/
def placeholders (text : List Char) : List Nat := boundValues (scan text)

/-- A text with its placeholders counted on from a number. -/
def shifted (number : Nat) (text : List Char) : List Char :=
  (scan text).flatMap fun token => (token.map (number + ·)).written

namespace Token

/-- A character that starts neither a quoted part nor a placeholder, or no single
character at all. -/
def IsPlain : Token Value → Prop
  | .character value => value ≠ '"' ∧ value ≠ '\'' ∧ value ≠ '$'
  | _ => True

/-- A character that carries no placeholder on. -/
def IsBreak : Token Value → Prop
  | .character value => value.isDigit = false
  | _ => False

/-- Whether a token stays the same when another one follows: a quoted part and a
placeholder end before a break only. -/
def MayPrecede (first second : Token Value) : Prop :=
  (∃ value, first = .character value) ∨ second.IsBreak

end Token

/-- No two neighbours of the tokens run together in their text. -/
structure Separated (tokens : List (Token Value)) : Prop where
  plain : ∀ token ∈ tokens, token.IsPlain
  chained : tokens.IsChain Token.MayPrecede

/-- Tokens that end whatever stands in front of them: there are none, or the first is a
break. -/
def Breaks (tokens : List (Token Value)) : Prop := ∀ token ∈ tokens.head?, token.IsBreak

namespace Separated

theorem nil : Separated ([] : List (Token Value)) := ⟨by simp, .nil⟩

/-- A plain token alone is separated. -/
theorem singleton {token : Token Value} (plain : token.IsPlain) : Separated [token] :=
  ⟨by simpa using plain, .singleton token⟩

/-- A character goes before anything. -/
theorem cons_character {character : Char} {tokens : List (Token Value)}
    (plain : (Token.character character : Token Value).IsPlain) (rest : Separated tokens) :
    Separated (.character character :: tokens) := by
  constructor
  · intro token mem
    rcases List.mem_cons.mp mem with rfl | inRest
    · exact plain
    · exact rest.plain token inRest
  · exact List.IsChain.cons rest.chained fun next mem => .inl ⟨character, rfl⟩

/-- Anything goes before tokens that break it off. -/
theorem append {before after : List (Token Value)} (first : Separated before)
    (second : Separated after) (breaks : Breaks after) : Separated (before ++ after) := by
  constructor
  · intro token mem
    rcases List.mem_append.mp mem with inFirst | inSecond
    · exact first.plain token inFirst
    · exact second.plain token inSecond
  · refine first.chained.append second.chained ?_
    intro last _ next mem
    exact .inr (breaks next mem)

/-- The tokens behind the first of separated tokens are separated. -/
theorem tail {token : Token Value} {tokens : List (Token Value)}
    (separated : Separated (token :: tokens)) : Separated tokens :=
  ⟨fun other mem => separated.plain other (List.mem_cons_of_mem _ mem), separated.chained.tail⟩

/-- What follows a token of several characters starts with a plain character that is no
digit, or ends the text. -/
theorem head?_written {token : Token Nat} {tokens : List (Token Nat)}
    (separated : Separated (token :: tokens)) (several : ∀ value, token ≠ .character value) :
    ∀ next ∈ (tokens.flatMap Token.written).head?,
      (Token.character next : Token Nat).IsPlain ∧ next.isDigit = false := by
  intro next mem
  cases tokens with
  | nil => simp at mem
  | cons following rest =>
      have chained := (List.isChain_cons_cons.mp separated.chained).1
      have plain := separated.plain following (by simp)
      obtain ⟨value, single⟩ | isBreak := chained
      · exact absurd single (several value)
      · cases following with
        | character value =>
            obtain rfl : value = next := by simpa [Token.written] using mem
            exact ⟨plain, isBreak⟩
        | identifier => exact isBreak.elim
        | literal => exact isBreak.elim
        | placeholder => exact isBreak.elim

end Separated

/-- A quoted text is read back up to the mark that ends it. -/
theorem unquote_doubled (mark : Char) (text rest : List Char) (ends : rest.head? ≠ some mark) :
    unquote mark
        (text.flatMap (fun character => if character = mark then [mark, mark] else [character]) ++
          mark :: rest) = (text, rest) := by
  induction text with
  | nil =>
      cases rest with
      | nil => simp [unquote]
      | cons next rest =>
          have differs : next ≠ mark := by simpa using ends
          simp [unquote, differs]
  | cons first text ih =>
      by_cases same : first = mark
      · simp [unquote, same, ih]
      · -- The doubled rest of the text is never empty, since the closing mark follows it.
        obtain ⟨next, remaining, shape⟩ := List.exists_cons_of_ne_nil
          (l := text.flatMap (fun character =>
            if character = mark then [mark, mark] else [character]) ++ mark :: rest) (by simp)
        rw [shape] at ih
        simp only [List.flatMap_cons, same, if_false, List.cons_append, List.nil_append, shape,
          unquote, ih]

/-- A quoted name is scanned as that name. -/
theorem scan_identifier (name : String) (rest : List Char) (ends : rest.head? ≠ some '"') :
    scan (quote '"' name ++ rest) = .identifier name :: scan rest := by
  have held := unquote_doubled '"' name.toList rest ends
  rw [quote, List.cons_append, List.append_assoc, List.singleton_append, scan]
  simp only [if_true, held, String.ofList_toList]

/-- A quoted literal is scanned as its text. -/
theorem scan_literal (text : String) (rest : List Char) (ends : rest.head? ≠ some '\'') :
    scan (quote '\'' text ++ rest) = .literal text :: scan rest := by
  have held := unquote_doubled '\'' text.toList rest ends
  rw [quote, List.cons_append, List.append_assoc, List.singleton_append, scan]
  simp only [Char.reduceEq, if_false, if_true, held, String.ofList_toList]

/-- The decimal digits of a number are digits. -/
theorem isDigit_of_mem_toDigits {number : Nat} {digit : Char}
    (mem : digit ∈ Nat.toDigits 10 number) : digit.isDigit = true :=
  Nat.isDigit_of_mem_toDigits (by decide) (by decide) mem

/-- A placeholder is scanned as its number where no digit follows. -/
theorem scan_placeholder (number : Nat) (rest : List Char)
    (ends : ∀ next ∈ rest.head?, next.isDigit = false) :
    scan ('$' :: Nat.toDigits 10 number ++ rest) = .placeholder number :: scan rest := by
  have stops : rest.takeWhile Char.isDigit = [] := by
    cases rest with
    | nil => rfl
    | cons next rest => simp [ends next (by simp)]
  have stays : rest.dropWhile Char.isDigit = rest := by
    cases rest with
    | nil => rfl
    | cons next rest => simp [ends next (by simp)]
  have digits : (Nat.toDigits 10 number ++ rest).takeWhile Char.isDigit = Nat.toDigits 10 number := by
    rw [List.takeWhile_append_of_pos fun _ => isDigit_of_mem_toDigits, stops, List.append_nil]
  have remaining : (Nat.toDigits 10 number ++ rest).dropWhile Char.isDigit = rest := by
    rw [List.dropWhile_append_of_pos fun _ => isDigit_of_mem_toDigits, stays]
  rw [List.cons_append, scan]
  simp [digits, remaining, Nat.toDigits_ne_nil]

/-- A plain character is scanned as itself. -/
theorem scan_character {character : Char} (rest : List Char)
    (plain : (Token.character character : Token Nat).IsPlain) :
    scan (character :: rest) = .character character :: scan rest := by
  obtain ⟨noName, noLiteral, noPlaceholder⟩ := plain
  rw [scan]
  simp [noName, noLiteral, noPlaceholder]

/-- Scanning the text of separated tokens gives the tokens back. -/
theorem scan_written {tokens : List (Token Nat)} (separated : Separated tokens) :
    scan (tokens.flatMap Token.written) = tokens := by
  induction tokens with
  | nil => simp [scan]
  | cons token tokens ih =>
      have rest := ih separated.tail
      rw [List.flatMap_cons]
      cases token with
      | character value =>
          have plain := separated.plain (.character value) (by simp)
          rw [Token.written, List.singleton_append, scan_character _ plain, rest]
      | identifier name =>
          have ends := separated.head?_written (by simp)
          rw [Token.written, scan_identifier, rest]
          intro quoted
          exact (ends _ quoted).1.1 rfl
      | literal text =>
          have ends := separated.head?_written (by simp)
          rw [Token.written, scan_literal, rest]
          intro quoted
          exact (ends _ quoted).1.2.1 rfl
      | placeholder number =>
          have ends := separated.head?_written (by simp)
          rw [Token.written, scan_placeholder, rest]
          intro next mem
          exact (ends next mem).2

end CatalogSql.Sql
