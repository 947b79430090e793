import CatalogSql.Proofs.Generated.Reader

/-!
# Readers of tokens

A reader reads tokens if it takes exactly their lexemes, whatever follows them. Readers one after
another read tokens one after another, and readers of items read lists of them.
-/

namespace CatalogSql.Generated

variable {α β ι : Type}

/-- A reader takes the lexemes of tokens as a value and leaves what follows. The tokens can be
read from their text. -/
structure Reads (reader : Reader α) (tokens : List Token) (value : α) : Prop where
  closed : ∀ token ∈ tokens, token.IsClosed
  runs : ∀ rest, reader (tokens.flatMap Token.lexemes ++ rest) = some (value, rest)

/-- A reader takes the lexemes of tokens in front of a mark as a value, and leaves the mark. -/
structure ReadsUpTo (closing : Char) (reader : Reader α) (tokens : List Token) (value : α) :
    Prop where
  closed : ∀ token ∈ tokens, token.IsClosed
  runs : ∀ rest, reader (tokens.flatMap Token.lexemes ++ .mark closing :: rest) =
    some (value, .mark closing :: rest)

namespace Reads

/-- What is expected is taken off the front. -/
theorem expect_append (lexemes rest : List Lexeme) :
    Reader.expect lexemes (lexemes ++ rest) = some rest := by
  induction lexemes with
  | nil => rfl
  | cons lexeme others ih => rw [List.cons_append, Reader.expect, if_pos rfl, ih]

/-- A value that is read from nothing takes no tokens. -/
theorem pure (value : α) : Reads (Pure.pure value) [] value :=
  ⟨List.forall_mem_nil _, fun _ => rfl⟩

/-- What two readers read one after the other is read by both. -/
theorem bind {first : Reader α} {next : α → Reader β} {tokens others : List Token} {value : α}
    {result : β} (reads : Reads first tokens value) (goesOn : Reads (next value) others result) :
    Reads (first >>= next) (tokens ++ others) result where
  closed := List.forall_mem_append.mpr ⟨reads.closed, goesOn.closed⟩
  runs rest := by
    change (first _).bind _ = _
    rw [List.flatMap_append, List.append_assoc, reads.runs]
    exact goesOn.runs rest

/-- A reader of one token, and one of those after it. -/
theorem bindToken {first : Reader α} {next : α → Reader β} {token : Token} {others : List Token}
    {value : α} {result : β} (reads : Reads first [token] value)
    (goesOn : Reads (next value) others result) :
    Reads (first >>= next) (token :: others) result := reads.bind goesOn

/-- A reader may go on with one that reads up to a closing mark. -/
theorem bindUpTo {closing : Char} {first : Reader α} {next : α → Reader β}
    {tokens others : List Token} {value : α} {result : β} (reads : Reads first tokens value)
    (goesOn : ReadsUpTo closing (next value) others result) :
    ReadsUpTo closing (first >>= next) (tokens ++ others) result where
  closed := List.forall_mem_append.mpr ⟨reads.closed, goesOn.closed⟩
  runs rest := by
    change (first _).bind _ = _
    rw [List.flatMap_append, List.append_assoc, reads.runs]
    exact goesOn.runs rest

/-- What is read in front of anything is read up to a closing mark. -/
theorem toMark (closing : Char) {reader : Reader α} {tokens : List Token} {value : α}
    (reads : Reads reader tokens value) : ReadsUpTo closing reader tokens value :=
  ⟨reads.closed, fun rest => reads.runs (.mark closing :: rest)⟩

/-- The last reader of several, with the value made of what they have read. -/
theorem last {first : Reader α} {value : α} {tokens : List Token} (reads : Reads first tokens value)
    (result : α → β) :
    Reads (first >>= fun read => Pure.pure (result read)) tokens (result value) := by
  rw [← List.append_nil tokens]
  exact reads.bind (pure (result value))

/-- A token that is one lexeme. -/
theorem single {reader : Reader α} {token : Token} {lexeme : Lexeme} {value : α}
    (closed : token.IsClosed ∧ token.lexemes = [lexeme])
    (runs : ∀ rest, reader (lexeme :: rest) = some (value, rest)) :
    Reads reader [token] value where
  closed := List.forall_mem_singleton.mpr closed.1
  runs rest := by simpa [closed.2] using runs rest

/-- A quoted text is read as the text. -/
theorem text (value : String) : Reads Reader.text [.text value] value :=
  single (Token.isClosed_text value) fun _ => rfl

/-- A raw text is read as it stands, unless it holds its own delimiter. -/
theorem verbatim {value : String}
    (plain : ∀ character ∈ value.toList, character ≠ '"' ∧ character ≠ '\r') :
    Reads Reader.text [.verbatim value] value :=
  single (Token.isClosed_verbatim plain) fun _ => rfl

/-- A valid identifier is read as itself. -/
theorem identifier {identifier : Identifier} (valid : identifier.IsValid) :
    Reads Reader.identifier [.name identifier] identifier := by
  refine single (Token.isClosed_name valid) fun rest => ?_
  have plain : ¬ (identifier.raw = false ∧ Identifier.IsKeyword identifier.word) := by
    rintro ⟨notRaw, keyword⟩
    rw [valid.raw_iff.mpr keyword] at notRaw
    cases notRaw
  simp [Reader.identifier, plain]

/-- A mark is read as itself. -/
theorem mark {token : Token} {character : Char}
    (closed : token.IsClosed ∧ token.lexemes = [.mark character]) :
    Reads (Reader.mark character) [token] () :=
  single closed fun rest => by simp [Reader.mark, Reader.expect]

/-- An opening bracket is one closed lexeme. -/
theorem isClosed_opening (bracket : Bracket) : (Token.opening bracket).IsClosed ∧
    (Token.opening bracket).lexemes = [.mark bracket.opened] := by
  cases bracket <;> decide +kernel

/-- A closing bracket is one closed lexeme. -/
theorem isClosed_closing (bracket : Bracket) : (Token.closing bracket).IsClosed ∧
    (Token.closing bracket).lexemes = [.mark bracket.closed] := by
  cases bracket <;> decide +kernel

/-- Fixed code reads itself. -/
theorem code {fixed : String} {characters : List Char}
    (isText : String.ofList characters = fixed)
    (closed : ∀ word ∈ characters.splitOn ' ', (Lexeme.read? word).isSome) :
    Reads (Reader.code fixed) (Token.code fixed) () where
  closed := Token.isClosed_code isText closed
  runs rest := by
    have isRead := Token.read_code (Token.isClosed_code isText closed)
    rw [Reader.code, isRead, expect_append, Option.map_some]

/-- Texts one after another. -/
theorem appended {first second : List Char} {before after : String}
    (isBefore : String.ofList first = before) (isAfter : String.ofList second = after) :
    String.ofList (first ++ second) = before ++ after := by
  rw [String.ofList_append, isBefore, isAfter]

/-- A word that stands for a value. -/
theorem choice {choices : List (String × α)} {word : String} {characters : List Char} {value : α}
    (isText : String.ofList characters = word)
    (isRead : Lexeme.read? characters = some [.name ⟨characters, false⟩])
    (found : Keyed.lookup? word choices = some value) :
    Reads (Reader.choice choices) [.plain word] value := by
  have sameCharacters : word.toList = characters := by rw [← isText, String.toList_ofList]
  have closed : (Token.plain word).IsClosed ∧
      (Token.plain word).lexemes = [.name ⟨characters, false⟩] := by
    rw [Token.IsClosed, Token.lexemes, Lexeme.read, Token.written, sameCharacters, isRead]
    exact ⟨rfl, rfl⟩
  exact single closed fun rest => by simp [Reader.choice, isText, found]

/-- What is read up to a closing bracket is read between the brackets. -/
theorem within (bracket : Bracket) {reader : Reader α} {tokens : List Token} {value : α}
    (reads : ReadsUpTo bracket.closed reader tokens value) :
    Reads (Reader.within bracket reader) (Token.within bracket tokens) value := by
  have closes := (mark (isClosed_closing bracket)).last fun _ => value
  have inside : Reads (reader >>= fun value => Reader.mark bracket.closed >>= fun _ => Pure.pure value)
      (tokens ++ [.closing bracket]) value := by
    refine ⟨List.forall_mem_append.mpr ⟨reads.closed, closes.closed⟩, fun rest => ?_⟩
    have runs := closes.runs rest
    rw [List.flatMap_singleton, (isClosed_closing bracket).2] at runs
    rw [List.flatMap_append, List.append_assoc, List.flatMap_singleton,
      (isClosed_closing bracket).2, List.singleton_append]
    change (reader _).bind _ = _
    rw [reads.runs]
    exact runs
  exact (mark (isClosed_opening bracket)).bind inside

/-! ## Items -/

section Items

variable {item : Reader α} {closing : Char} {indices : List ι} {tokens : ι → List Token}
  {value : ι → α}

/-- A reader that takes no lexemes in front of a mark. -/
def StopsAt (closing : Char) (item : Reader α) : Prop :=
  ∀ rest, item (.mark closing :: rest) = none

/-- A reader stops where its first part stops. -/
theorem stopsAt_bind {first : Reader α} {next : α → Reader β} (stops : StopsAt closing first) :
    StopsAt closing (first >>= next) := by
  intro rest
  change (first _).bind _ = _
  rw [stops, Option.bind_none]

/-- Fixed code stops at a mark that it does not begin with. -/
theorem stopsAt_code {fixed : String} {characters : List Char}
    (isText : String.ofList characters = fixed)
    (begins : (Lexeme.read characters).head?.any (· ≠ .mark closing) = true) :
    StopsAt closing (Reader.code fixed) := by
  intro rest
  rw [Reader.code, ← isText, String.toList_ofList]
  cases shape : Lexeme.read characters with
  | nil => simp [shape] at begins
  | cons first others =>
      have differs : first ≠ .mark closing := by simpa [shape] using begins
      simp [Reader.expect, differs]

/-- What stands in brackets stops at every mark but the opening bracket. -/
theorem stopsAt_within {bracket : Bracket} (differs : bracket.opened ≠ closing) :
    StopsAt closing (Reader.within bracket item) := by
  refine stopsAt_bind fun rest => ?_
  simp [Reader.mark, Reader.expect, differs]

/-- What an item reads does not begin with the mark in front of which items stop. -/
theorem head_ne {itemTokens : List Token} {itemValue : α} (stops : StopsAt closing item)
    (reads : Reads item itemTokens itemValue) (rest : List Lexeme) :
    (itemTokens.flatMap Token.lexemes ++ rest).head? ≠ some (.mark closing) := by
  intro isHead
  obtain ⟨others, shape⟩ := List.head?_eq_some_iff.mp isHead
  have runs := reads.runs rest
  rw [shape, stops] at runs
  cases runs

/-- An item that stops at a mark is not empty, as it would not stop otherwise. -/
theorem length_pos {itemTokens : List Token} {itemValue : α} (stops : StopsAt closing item)
    (reads : Reads item itemTokens itemValue) :
    0 < (itemTokens.flatMap Token.lexemes).length := by
  have isHead := head_ne stops reads [.mark closing]
  rw [List.length_pos_iff]
  intro empty
  rw [empty] at isHead
  exact isHead rfl

/-- Items are read one after another up to the closing mark, when there is room for all of them. -/
theorem itemsUpTo (stops : StopsAt closing item)
    (reads : ∀ index ∈ indices, Reads item (tokens index) (value index)) (rest : List Lexeme)
    {remaining : Nat}
    (enough : ((indices.flatMap tokens).flatMap Token.lexemes).length < remaining) :
    Reader.itemsUpTo closing item remaining
        ((indices.flatMap tokens).flatMap Token.lexemes ++ .mark closing :: rest) =
      some (indices.map value, .mark closing :: rest) := by
  induction indices generalizing remaining with
  | nil =>
      obtain ⟨remaining, rfl⟩ := Nat.exists_eq_add_of_lt enough
      simp [Reader.itemsUpTo]
  | cons first others ih =>
      obtain ⟨readsFirst, readsOthers⟩ := List.forall_mem_cons.mp reads
      have some_lexeme := length_pos stops readsFirst
      rw [List.flatMap_cons, List.flatMap_append, List.length_append] at enough
      obtain ⟨remaining, rfl⟩ : ∃ less, remaining = less + 1 := ⟨remaining - 1, by omega⟩
      have later := ih readsOthers (by omega : _ < remaining)
      have onwards := readsFirst.runs
        ((others.flatMap tokens).flatMap Token.lexemes ++ .mark closing :: rest)
      have isHead := head_ne stops readsFirst
        ((others.flatMap tokens).flatMap Token.lexemes ++ .mark closing :: rest)
      rw [List.flatMap_cons, List.flatMap_append, List.append_assoc, Reader.itemsUpTo,
        if_neg isHead, onwards, Option.bind_some]
      simp only [later, Option.map_some, List.map_cons]

/-- Items up to a closing mark. -/
theorem items {bracket : Bracket} (stops : StopsAt bracket.closed item)
    (reads : ∀ index ∈ indices, Reads item (tokens index) (value index)) :
    ReadsUpTo bracket.closed (Reader.items bracket item) (indices.flatMap tokens)
      (indices.map value) where
  closed := by
    intro token mem
    obtain ⟨index, isItem, inItem⟩ := List.mem_flatMap.mp mem
    exact (reads index isItem).closed token inItem
  runs rest := itemsUpTo stops reads rest (by simp)

/-- Items in braces are read in order. -/
theorem block (stops : StopsAt Bracket.curly.closed item)
    (reads : ∀ index ∈ indices, Reads item (tokens index) (value index)) :
    Reads (Reader.block item) (Token.inCurly (indices.flatMap tokens)) (indices.map value) :=
  within .curly (items stops reads)

/-- A token of separated items is a comma or belongs to an item. -/
theorem mem_separated {token : Token} {items : List (List Token)}
    (mem : token ∈ Token.separated items) : token = .plain "," ∨ ∃ item ∈ items, token ∈ item := by
  induction items with
  | nil => cases mem
  | cons first others ih =>
      cases others with
      | nil => exact .inr ⟨first, by simp, by simpa [Token.separated] using mem⟩
      | cons second others =>
          rw [Token.separated, List.intercalate_cons_cons] at mem
          rcases List.mem_append.mp mem with front | inOthers
          · rcases List.mem_append.mp front with inFirst | isComma
            · exact .inr ⟨first, by simp, inFirst⟩
            · exact .inl (List.mem_singleton.mp isComma)
          · rcases ih inOthers with isComma | ⟨item, isItem, inItem⟩
            · exact .inl isComma
            · exact .inr ⟨item, List.mem_cons_of_mem _ isItem, inItem⟩

/-- Items with commas between them are read one after another up to the closing mark, when there is
room for all of them. -/
theorem separatedUpTo (notComma : closing ≠ ',') (stops : StopsAt closing item)
    (reads : ∀ index ∈ indices, Reads item (tokens index) (value index)) (rest : List Lexeme)
    {remaining : Nat}
    (enough : ((Token.separated (indices.map tokens)).flatMap Token.lexemes).length < remaining) :
    Reader.separatedUpTo closing item remaining
        ((Token.separated (indices.map tokens)).flatMap Token.lexemes ++ .mark closing :: rest) =
      some (indices.map value, .mark closing :: rest) := by
  induction indices generalizing remaining with
  | nil =>
      obtain ⟨remaining, rfl⟩ := Nat.exists_eq_add_of_lt enough
      simp [Reader.separatedUpTo, Token.separated]
  | cons first others ih =>
      obtain ⟨readsFirst, readsOthers⟩ := List.forall_mem_cons.mp reads
      have some_lexeme := length_pos stops readsFirst
      obtain ⟨remaining, rfl⟩ : ∃ less, remaining = less + 1 := ⟨remaining - 1, by omega⟩
      cases others with
      | nil =>
          have onwards := readsFirst.runs (.mark closing :: rest)
          have isHead := head_ne stops readsFirst (.mark closing :: rest)
          rw [List.map_singleton, Token.separated, List.intercalate_singleton,
            Reader.separatedUpTo, if_neg isHead, onwards, Option.bind_some]
          simp [notComma]
      | cons second others =>
          have comma : (Token.plain ",").lexemes = [.mark ','] := by decide +kernel
          have shape : (Token.separated ((first :: second :: others).map tokens)).flatMap
              Token.lexemes = (tokens first).flatMap Token.lexemes ++ .mark ',' ::
                (Token.separated ((second :: others).map tokens)).flatMap Token.lexemes := by
            simp [Token.separated, List.intercalate_cons_cons, comma]
          rw [shape, List.length_append, List.length_cons] at enough
          have later := ih readsOthers (by omega : _ < remaining)
          have onwards := readsFirst.runs (.mark ',' ::
            ((Token.separated ((second :: others).map tokens)).flatMap Token.lexemes ++
              .mark closing :: rest))
          have isHead := head_ne stops readsFirst (.mark ',' ::
            ((Token.separated ((second :: others).map tokens)).flatMap Token.lexemes ++
              .mark closing :: rest))
          rw [shape, List.append_assoc, List.cons_append, Reader.separatedUpTo, if_neg isHead,
            onwards, Option.bind_some]
          simpa using later

/-- Items in square brackets with commas between them are read in order. -/
theorem list (stops : StopsAt Bracket.square.closed item)
    (reads : ∀ index ∈ indices, Reads item (tokens index) (value index)) :
    Reads (Reader.list item) (Token.inSquare (Token.separated (indices.map tokens)))
      (indices.map value) := by
  refine within .square ⟨?_, fun rest => ?_⟩
  · intro token mem
    rcases mem_separated mem with rfl | ⟨item, isItem, inItem⟩
    · decide +kernel
    · obtain ⟨index, isIndex, rfl⟩ := List.mem_map.mp isItem
      exact (reads index isIndex).closed token inItem
  · exact separatedUpTo (by decide) stops reads rest (by simp)

end Items

/-! ## What is skipped -/

/-- The lexemes in front of a mark that none of them is. -/
theorem upTo {closing : Char} {tokens : List Token} {token : Token}
    (closed : ∀ front ∈ tokens, front.IsClosed)
    (absent : .mark closing ∉ tokens.flatMap Token.lexemes)
    (isMark : token.IsClosed ∧ token.lexemes = [.mark closing]) :
    Reads (Reader.upTo closing) (tokens ++ [token]) (tokens.flatMap Token.lexemes) where
  closed := List.forall_mem_append.mpr ⟨closed, List.forall_mem_singleton.mpr isMark.1⟩
  runs rest := by
    rw [List.flatMap_append, List.flatMap_singleton, isMark.2, List.append_assoc,
      List.singleton_append]
    generalize tokens.flatMap Token.lexemes = lexemes at absent
    induction lexemes with
    | nil => simp [Reader.upTo]
    | cons lexeme others ih =>
        rw [List.mem_cons, not_or] at absent
        simp [Reader.upTo, Ne.symm absent.1, ih absent.2]

/-- Fixed code of closed words is made of closed tokens, and holds no mark but those it is written
with. -/
theorem readable_code {fixed : String} {characters : List Char} {closing : Char}
    (isText : String.ofList characters = fixed)
    (closed : ∀ word ∈ characters.splitOn ' ', (Lexeme.read? word).isSome)
    (absent : .mark closing ∉ Lexeme.read characters) :
    (∀ token ∈ Token.code fixed, token.IsClosed) ∧
      .mark closing ∉ (Token.code fixed).flatMap Token.lexemes := by
  have isClosed := Token.isClosed_code isText closed
  rw [← Token.read_code isClosed, ← isText, String.toList_ofList]
  exact ⟨isText ▸ isClosed, absent⟩

/-- Tokens that close the brackets they open, and no others. -/
structure IsBalanced (tokens : List Token) : Prop where
  closed : ∀ token ∈ tokens, token.IsClosed
  balanced : (tokens.flatMap Token.lexemes).foldlM Reader.follow [] = some []

/-- What lies outside the open brackets does not matter to a lexeme. -/
theorem follow_append {opened after : List Bracket} {lexeme : Lexeme}
    (follows : Reader.follow opened lexeme = some after) (outer : List Bracket) :
    Reader.follow (opened ++ outer) lexeme = some (after ++ outer) := by
  unfold Reader.follow at follows ⊢
  cases lexeme with
  | mark character =>
      simp only at follows ⊢
      split at follows
      · cases follows
        rfl
      · rename_i bracket found
        by_cases opens : character = bracket.opened
        · rw [if_pos opens] at follows ⊢
          cases follows
          rfl
        · rw [if_neg opens] at follows ⊢
          cases opened with
          | nil => cases follows
          | cons innermost others =>
              by_cases same : innermost = bracket
              · simp_all
              · simp [same] at follows
  | _ =>
      cases follows
      rfl

/-- What lies outside the open brackets does not matter to balanced code. -/
theorem foldlM_follow_append {opened after : List Bracket} {lexemes : List Lexeme}
    (follows : lexemes.foldlM Reader.follow opened = some after) (outer : List Bracket) :
    lexemes.foldlM Reader.follow (opened ++ outer) = some (after ++ outer) := by
  induction lexemes generalizing opened with
  | nil =>
      cases follows
      rfl
  | cons lexeme rest ih =>
      obtain ⟨next, first, others⟩ := Option.bind_eq_some_iff.mp follows
      rw [List.foldlM_cons, follow_append first]
      exact ih others

/-- Lexemes that leave a bracket open are skipped. -/
theorem skipGroups_append {opened after : List Bracket} {lexemes : List Lexeme}
    (follows : lexemes.foldlM Reader.follow opened = some after) (bracket : Bracket)
    (rest : List Lexeme) :
    Reader.skipGroups (opened ++ [bracket]) (lexemes ++ rest) =
      Reader.skipGroups (after ++ [bracket]) rest := by
  induction lexemes generalizing opened with
  | nil =>
      cases follows
      rfl
  | cons lexeme others ih =>
      obtain ⟨next, first, onwards⟩ := Option.bind_eq_some_iff.mp follows
      rw [List.cons_append, Reader.skipGroups, follow_append first]
      have isOpen : next ++ [bracket] ≠ [] := by simp
      cases shape : next ++ [bracket] with
      | nil => exact absurd shape isOpen
      | cons innermost outer =>
          simp only
          rw [← shape]
          exact ih onwards

namespace IsBalanced

variable {tokens others : List Token}

/-- Balanced code after balanced code is balanced. -/
theorem append (balanced : IsBalanced tokens) (goesOn : IsBalanced others) :
    IsBalanced (tokens ++ others) where
  closed := List.forall_mem_append.mpr ⟨balanced.closed, goesOn.closed⟩
  balanced := by
    rw [List.flatMap_append, List.foldlM_append, balanced.balanced]
    exact goesOn.balanced

/-- Balanced code in brackets is balanced. -/
theorem within (bracket : Bracket) (balanced : IsBalanced tokens) :
    IsBalanced (Token.within bracket tokens) where
  closed := by
    have isOpening := (isClosed_opening bracket).1
    have isClosing := (isClosed_closing bracket).1
    exact List.forall_mem_cons.mpr ⟨isOpening, List.forall_mem_append.mpr
      ⟨balanced.closed, List.forall_mem_singleton.mpr isClosing⟩⟩
  balanced := by
    have inside := foldlM_follow_append balanced.balanced [bracket]
    have opens : Reader.follow [] (.mark bracket.opened) = some [bracket] := by
      cases bracket <;> decide
    have closes : Reader.follow [bracket] (.mark bracket.closed) = some [] := by
      cases bracket <;> decide
    rw [List.nil_append] at inside
    simp [Token.within, (isClosed_opening bracket).2, (isClosed_closing bracket).2, opens, inside,
      closes]

/-- A token that is no bracket is balanced. -/
theorem single {token : Token} {lexeme : Lexeme}
    (closed : token.IsClosed ∧ token.lexemes = [lexeme])
    (ignored : Reader.follow [] lexeme = some []) : IsBalanced [token] where
  closed := List.forall_mem_singleton.mpr closed.1
  balanced := by simp [closed.2, ignored]

/-- An identifier is balanced. -/
theorem name {identifier : Identifier} (valid : identifier.IsValid) :
    IsBalanced [.name identifier] := single (Token.isClosed_name valid) rfl

/-- Fixed code is balanced when its brackets match. -/
theorem code {fixed : String} {characters : List Char}
    (isText : String.ofList characters = fixed)
    (closed : ∀ word ∈ characters.splitOn ' ', (Lexeme.read? word).isSome)
    (balanced : (Lexeme.read characters).foldlM Reader.follow [] = some []) :
    IsBalanced (Token.code fixed) where
  closed := Token.isClosed_code isText closed
  balanced := by
    rw [← Token.read_code (Token.isClosed_code isText closed), ← isText, String.toList_ofList]
    exact balanced

end IsBalanced

/-- What is balanced is skipped up to the closing mark. -/
theorem skipRest (bracket : Bracket) {tokens : List Token} (balanced : IsBalanced tokens) :
    Reads (Reader.skipRest bracket) (tokens ++ [.closing bracket]) () where
  closed := List.forall_mem_append.mpr
    ⟨balanced.closed, List.forall_mem_singleton.mpr (isClosed_closing bracket).1⟩
  runs rest := by
    have skips := skipGroups_append balanced.balanced bracket (.mark bracket.closed :: rest)
    have closes : Reader.follow [bracket] (.mark bracket.closed) = some [] := by
      cases bracket <;> decide
    have isOver : Reader.skipGroups [bracket] (.mark bracket.closed :: rest) = some rest := by
      simp [Reader.skipGroups, closes]
    rw [List.flatMap_append, List.flatMap_singleton, (isClosed_closing bracket).2,
      List.append_assoc, List.singleton_append, Reader.skipRest]
    exact congrArg (Option.map fun rest => ((), rest)) (skips.trans isOver)

end Reads

end CatalogSql.Generated
