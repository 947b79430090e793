import CatalogSql.Generated.Identifier
import Mathlib.Data.List.Nodup
import Mathlib.Data.List.Range
import Mathlib.Data.Nat.Find

/-!
# Valid and distinct identifiers

Any text gives a valid identifier, and numbering a valid identifier keeps it valid. The
identifiers of a scope are distinct: one that is taken is told apart by the first number
that is free, and among more numbers than there are identifiers taken one is.
-/

namespace CatalogSql

namespace Identifier

/-! ## Validity -/

/-- The words that have a meaning of their own in code. -/
def strictKeywords : List String :=
  ["as", "async", "await", "break", "const", "continue", "crate", "dyn", "else", "enum", "extern",
    "false", "fn", "for", "if", "impl", "in", "let", "loop", "match", "mod", "move", "mut", "pub",
    "ref", "return", "self", "Self", "static", "struct", "super", "trait", "true", "type",
    "unsafe", "use", "where", "while"]

/-- The words that may get a meaning of their own later. -/
def keptKeywords : List String :=
  ["abstract", "become", "box", "do", "final", "macro", "override", "priv", "try", "typeof",
    "unsized", "virtual", "yield"]

/-- A word that no plain identifier has. -/
def IsKeyword (word : List Char) : Prop :=
  String.ofList word ∈ strictKeywords ++ keptKeywords

/-- A word made of what identifiers are made of: ASCII letters, digits and underscores, no
digit in front, and not only underscores, so at least one character. -/
structure IsWord (word : List Char) : Prop where
  characters : ∀ character ∈ word, character.isAlphanum = true ∨ character = '_'
  noDigitFirst : ∀ first ∈ word.head?, first.isDigit = false
  notBlank : ∃ character ∈ word, character ≠ '_'

/-- An identifier that code may declare. Keywords are written raw, which four of them cannot
be. -/
structure IsValid (identifier : Identifier) : Prop where
  word : IsWord identifier.word
  raw_iff : identifier.raw = true ↔ IsKeyword identifier.word
  notReserved : String.ofList identifier.word ∉ ["self", "Self", "super", "crate"]

/-- A word is a keyword exactly if it is on one of the two lists. -/
theorem isKeyword_iff (word : List Char) :
    IsKeyword word ↔ String.ofList word ∈ reserved ∨ String.ofList word ∈ keywords := by
  have sameWords : (strictKeywords ++ keptKeywords).Perm (reserved ++ keywords) := by
    decide +kernel
  rw [IsKeyword, sameWords.mem_iff, List.mem_append]

/-- No keyword has an underscore. -/
theorem IsKeyword.no_underscore {word : List Char} (keyword : IsKeyword word) : '_' ∉ word := by
  have absent : ∀ found ∈ strictKeywords ++ keptKeywords, '_' ∉ found.toList := by decide +kernel
  simpa using absent _ keyword

/-- Valid identifiers are told apart by their words. -/
theorem IsValid.eq_of_word {first second : Identifier} (firstValid : first.IsValid)
    (secondValid : second.IsValid) (same : first.word = second.word) : first = second := by
  have sameRaw : first.raw = true ↔ second.raw = true := by
    rw [firstValid.raw_iff, secondValid.raw_iff, same]
  obtain ⟨word, raw⟩ := first
  obtain ⟨_, otherRaw⟩ := second
  cases same
  cases raw <;> cases otherRaw <;> simp_all

/-- A name allows letters, digits and the underscore. -/
theorem allows_iff (character : Char) :
    allows character = true ↔ character.isAlphanum = true ∨ character = '_' := by
  simp [allows]

/-- What is put in the place of a text is a word, if its placeholder is one. -/
theorem isWord_wordOfText {placeholder : List Char} (isWord : IsWord placeholder)
    (text : List Char) : IsWord (wordOfText placeholder text) := by
  have shape : wordOfText placeholder text =
      let word := text.map fun character => if allows character then character else '_'
      if word.all (· == '_') then placeholder
      else if (word.head?.any (·.isDigit)) then '_' :: word
      else word := rfl
  generalize isReplaced :
    (text.map fun character => if allows character then character else '_') = word at shape
  have characters : ∀ character ∈ word, character.isAlphanum = true ∨ character = '_' := by
    intro character mem
    obtain ⟨original, -, rfl⟩ := List.mem_map.mp (isReplaced ▸ mem)
    by_cases allowed : allows original = true
    · rw [if_pos allowed]
      exact (allows_iff original).mp allowed
    · rw [if_neg allowed]
      exact .inr rfl
  rw [shape]
  by_cases blank : word.all (· == '_') = true
  · simpa only [blank, if_true] using isWord
  · have notBlank : ∃ character ∈ word, character ≠ '_' := by simpa using blank
    simp only [blank]
    by_cases digit : word.head?.any (·.isDigit) = true
    · simp only [digit, if_true]
      refine ⟨?_, ?_, ?_⟩
      · exact List.forall_mem_cons.mpr ⟨.inr rfl, characters⟩
      · simp
      · obtain ⟨character, mem, differs⟩ := notBlank
        exact ⟨character, List.mem_cons_of_mem _ mem, differs⟩
    · simp only [digit, if_false, Bool.false_eq_true]
      refine ⟨characters, ?_, notBlank⟩
      intro first isFirst
      rw [Option.mem_def.mp isFirst] at digit
      simpa using digit

/-- Words that go on after a word are words. -/
theorem IsWord.append {word rest : List Char} (isWord : IsWord word)
    (characters : ∀ character ∈ rest, character.isAlphanum = true ∨ character = '_') :
    IsWord (word ++ rest) := by
  obtain ⟨found, mem, differs⟩ := isWord.notBlank
  refine ⟨?_, ?_, found, List.mem_append_left _ mem, differs⟩
  · intro character inAppend
    rcases List.mem_append.mp inAppend with inWord | inRest
    · exact isWord.characters character inWord
    · exact characters character inRest
  · cases word with
    | nil => cases mem
    | cons first others => exact isWord.noDigitFirst

/-- A word makes a valid identifier, raw where it is a keyword. -/
theorem isValid_ofWord {word : List Char} (isWord : IsWord word) : (ofWord word).IsValid := by
  by_cases isReserved : String.ofList word ∈ reserved
  · have shape : ofWord word = ⟨word ++ ['_'], false⟩ := by simp [ofWord, isReserved]
    rw [shape]
    have underscored : '_' ∈ word ++ ['_'] := by simp
    refine ⟨isWord.append (by simp), ?_, ?_⟩
    · simp only [Bool.false_eq_true, false_iff]
      exact fun keyword => keyword.no_underscore underscored
    · intro mem
      have keyword : IsKeyword (word ++ ['_']) := (isKeyword_iff _).mpr (.inl mem)
      exact keyword.no_underscore underscored
  · have shape : ofWord word = ⟨word, keywords.contains (String.ofList word)⟩ := by
      simp [ofWord, isReserved]
    rw [shape]
    refine ⟨isWord, ?_, isReserved⟩
    rw [isKeyword_iff, List.contains_iff_mem]
    simp [isReserved]

/-- Every text gives a valid identifier. -/
theorem isValid_ofText {placeholder : String} (isWord : IsWord placeholder.toList)
    (text : List Char) : (ofText placeholder text).IsValid :=
  isValid_ofWord (isWord_wordOfText isWord text)

/-- A valid identifier stays valid with a number behind it. -/
theorem isValid_numbered {identifier : Identifier} (valid : identifier.IsValid) (number : Nat) :
    (identifier.numbered number).IsValid := by
  have underscored : '_' ∈ identifier.word ++ '_' :: Nat.toDigits 10 number := by simp
  refine ⟨valid.word.append ?_, ?_, ?_⟩
  · refine List.forall_mem_cons.mpr ⟨.inr rfl, ?_⟩
    intro character mem
    have digit := Nat.isDigit_of_mem_toDigits (by decide) (by decide) mem
    exact .inl (by simp [Char.isAlphanum, digit])
  · rw [numbered]
    simp only [Bool.false_eq_true, false_iff]
    exact fun keyword => keyword.no_underscore underscored
  · intro mem
    have keyword : IsKeyword (identifier.word ++ '_' :: Nat.toDigits 10 number) :=
      (isKeyword_iff _).mpr (.inl mem)
    exact keyword.no_underscore underscored

/-! ## The first free number -/

/-- Different numbers make different identifiers. -/
theorem numbered_injective (identifier : Identifier) : Function.Injective identifier.numbered := by
  intro first second same
  have digits : Nat.toDigits 10 first = Nat.toDigits 10 second := by
    simpa [numbered] using same
  have values := congrArg (fun digits => Nat.ofDigitChars 10 digits 0) digits
  simpa only [Nat.ofDigitChars_toDigits (by decide : 1 < 10) (Nat.le_refl 10)] using values

/-- The first number, from two on, that tells an identifier from those taken. -/
structure IsFirstFree (identifier : Identifier) (taken : List Identifier) (number : Nat) :
    Prop where
  from_two : 2 ≤ number
  free : identifier.numbered number ∉ taken
  first : ∀ smaller, 2 ≤ smaller → smaller < number → identifier.numbered smaller ∈ taken

/-- There is at most one first free number. -/
theorem IsFirstFree.unique {identifier : Identifier} {taken : List Identifier}
    {first second : Nat} (isFirst : identifier.IsFirstFree taken first)
    (isSecond : identifier.IsFirstFree taken second) : first = second := by
  rcases Nat.lt_trichotomy first second with less | same | more
  · exact absurd (isSecond.first first isFirst.from_two less) isFirst.free
  · exact same
  · exact absurd (isFirst.first second isSecond.from_two more) isSecond.free

/-- Among more numbers than there are identifiers taken, one is free. -/
theorem exists_free (identifier : Identifier) (taken : List Identifier) :
    ∃ index < taken.length + 1, identifier.numbered (index + 2) ∉ taken := by
  by_contra none
  have allTaken : identifier.candidates taken ⊆ taken := by
    intro candidate mem
    obtain ⟨index, inRange, rfl⟩ := List.mem_map.mp mem
    by_contra free
    exact none ⟨index, List.mem_range.mp inRange, free⟩
  have distinct : (identifier.candidates taken).Nodup := by
    refine List.nodup_range.map ?_
    intro first second same
    have numbers := numbered_injective identifier same
    omega
  have counted := distinct.length_le_of_subset allTaken
  rw [candidates, List.length_map, List.length_range] at counted
  omega

/-- The search for a number that is free ends, at the first one. -/
theorem exists_isFirstFree (identifier : Identifier) (taken : List Identifier) :
    ∃ number ≤ taken.length + 2, identifier.IsFirstFree taken number := by
  obtain ⟨bound, within, free⟩ := identifier.exists_free taken
  have exists_index : ∃ index, identifier.numbered (index + 2) ∉ taken := ⟨bound, free⟩
  refine ⟨Nat.find exists_index + 2, ?_, by omega, Nat.find_spec exists_index, ?_⟩
  · have atMost := Nat.find_min' exists_index free
    omega
  · intro smaller from_two less
    obtain ⟨index, rfl⟩ := Nat.exists_eq_add_of_le' from_two
    by_contra isFree
    exact Nat.find_min exists_index (by omega) isFree

/-- The first candidate that is not taken has the first free number. -/
theorem find?_candidates {identifier : Identifier} {taken : List Identifier} {number : Nat}
    (isFirst : identifier.IsFirstFree taken number) :
    (identifier.candidates taken).find? (fun candidate => candidate ∉ taken) =
      some (identifier.numbered number) := by
  obtain ⟨found, within, isFound⟩ := identifier.exists_isFirstFree taken
  obtain rfl := isFirst.unique isFound
  have from_two := isFirst.from_two
  rw [candidates, List.find?_map, Option.map_eq_some_iff]
  refine ⟨number - 2, List.find?_range_eq_some.mpr ⟨?_, ?_, ?_⟩, ?_⟩
  · have same : number - 2 + 2 = number := by omega
    simp [same, isFirst.free]
  · exact List.mem_range.mpr (by omega)
  · intro index less
    have isTaken := isFirst.first (index + 2) (by omega) (by omega)
    simp [isTaken]
  · have same : number - 2 + 2 = number := by omega
    rw [same]

/-- An identifier that is not taken is kept. -/
theorem unlike_of_not_mem {identifier : Identifier} {taken : List Identifier}
    (free : identifier ∉ taken) : identifier.unlike taken = identifier := by
  rw [unlike, if_neg free]

/-- An identifier that is taken gets the first free number. -/
theorem unlike_of_mem {identifier : Identifier} {taken : List Identifier} {number : Nat}
    (isTaken : identifier ∈ taken) (isFirst : identifier.IsFirstFree taken number) :
    identifier.unlike taken = identifier.numbered number := by
  rw [unlike, if_pos isTaken, find?_candidates isFirst, Option.getD_some]

/-- An identifier is kept, or numbered with the first free number where it is taken. -/
theorem unlike_cases (identifier : Identifier) (taken : List Identifier) :
    (identifier ∉ taken ∧ identifier.unlike taken = identifier) ∨
      (identifier ∈ taken ∧ ∃ number, identifier.IsFirstFree taken number ∧
        identifier.unlike taken = identifier.numbered number) := by
  by_cases isTaken : identifier ∈ taken
  · obtain ⟨number, -, isFirst⟩ := identifier.exists_isFirstFree taken
    exact .inr ⟨isTaken, number, isFirst, unlike_of_mem isTaken isFirst⟩
  · exact .inl ⟨isTaken, unlike_of_not_mem isTaken⟩

/-- The identifier that is made is not taken. -/
theorem unlike_not_mem (identifier : Identifier) (taken : List Identifier) :
    identifier.unlike taken ∉ taken := by
  rcases identifier.unlike_cases taken with ⟨free, same⟩ | ⟨-, number, isFirst, same⟩
  · rwa [same]
  · rw [same]
    exact isFirst.free

/-- A valid identifier stays valid when it is made unlike others. -/
theorem isValid_unlike {identifier : Identifier} (valid : identifier.IsValid)
    (taken : List Identifier) : (identifier.unlike taken).IsValid := by
  rcases identifier.unlike_cases taken with ⟨-, same⟩ | ⟨-, number, -, same⟩
  · rwa [same]
  · rw [same]
    exact isValid_numbered valid number

/-! ## Scopes -/

section Scopes

variable (taken : List Identifier) {identifiers : List Identifier}

/-- Each identifier of a scope is kept unlike those taken and those before it. -/
theorem getElem?_distinctFrom {index : Nat} {identifier : Identifier}
    (found : identifiers[index]? = some identifier) :
    (distinctFrom taken identifiers)[index]? =
      some (identifier.unlike
        (((distinctFrom taken identifiers).take index).reverse ++ taken)) := by
  induction identifiers generalizing taken index with
  | nil => simp at found
  | cons first rest ih =>
      cases index with
      | zero =>
          obtain rfl : first = identifier := by simpa using found
          simp [distinctFrom]
      | succ index =>
          have later := ih (first.unlike taken :: taken) (by simpa using found)
          simp [distinctFrom, later]

/-- Valid identifiers stay valid when they are made distinct. -/
theorem isValid_of_mem_distinctFrom (valid : ∀ identifier ∈ identifiers, identifier.IsValid) :
    ∀ declared ∈ distinctFrom taken identifiers, declared.IsValid := by
  induction identifiers generalizing taken with
  | nil => exact List.forall_mem_nil _
  | cons first rest ih =>
      obtain ⟨firstValid, restValid⟩ := List.forall_mem_cons.mp valid
      exact List.forall_mem_cons.mpr ⟨isValid_unlike firstValid taken, ih _ restValid⟩

/-- The identifiers of a scope differ from those taken and from each other. -/
theorem nodup_distinctFrom (identifiers : List Identifier) :
    (∀ declared ∈ distinctFrom taken identifiers, declared ∉ taken) ∧
      (distinctFrom taken identifiers).Nodup := by
  induction identifiers generalizing taken with
  | nil => exact ⟨List.forall_mem_nil _, List.nodup_nil⟩
  | cons first rest ih =>
      obtain ⟨apart, distinct⟩ := ih (first.unlike taken :: taken)
      simp only [List.mem_cons, not_or] at apart
      refine ⟨List.forall_mem_cons.mpr ⟨first.unlike_not_mem taken, ?_⟩, ?_⟩
      · exact fun declared mem => (apart declared mem).2
      · exact List.nodup_cons.mpr ⟨fun mem => (apart _ mem).1 rfl, distinct⟩

end Scopes

/-- The identifiers that a scope declares for converted names, one for each name and in their
order. All of them are valid and no two have the same word. A converted name that is still free
is declared as it is, and any other with the first number that is free. -/
structure Declares (converted declared : List Identifier) : Prop where
  length : declared.length = converted.length
  valid : ∀ identifier ∈ declared, identifier.IsValid
  distinct : (declared.map (·.word)).Nodup
  kept : ∀ (index : Nat) (identifier : Identifier), converted[index]? = some identifier →
    identifier ∉ declared.take index → declared[index]? = some identifier
  told : ∀ (index : Nat) (identifier : Identifier), converted[index]? = some identifier →
    identifier ∈ declared.take index →
      ∃ number, identifier.IsFirstFree (declared.take index) number ∧
        declared[index]? = some (identifier.numbered number)

/-- The first free number depends on the set of taken identifiers only. -/
theorem IsFirstFree.of_mem_iff {identifier : Identifier} {taken others : List Identifier}
    {number : Nat} (isFirst : identifier.IsFirstFree taken number)
    (same : ∀ candidate, candidate ∈ taken ↔ candidate ∈ others) :
    identifier.IsFirstFree others number where
  from_two := isFirst.from_two
  free := fun mem => isFirst.free ((same _).mpr mem)
  first := fun smaller from_two less => (same _).mp (isFirst.first smaller from_two less)

/-- Distinct identifiers are what a scope declares. -/
theorem declares_distinct {converted : List Identifier}
    (valid : ∀ identifier ∈ converted, identifier.IsValid) :
    Declares converted (distinct converted) := by
  have declaredValid := isValid_of_mem_distinctFrom [] valid
  have sameTaken : ∀ index candidate, candidate ∈ ((distinct converted).take index).reverse ++ [] ↔
      candidate ∈ (distinct converted).take index := by simp
  refine ⟨length_distinct converted, declaredValid, ?_, ?_, ?_⟩
  · refine (nodup_distinctFrom [] converted).2.map_on ?_
    intro first firstMem second secondMem same
    exact (declaredValid first firstMem).eq_of_word (declaredValid second secondMem) same
  · intro index identifier found free
    have declared := getElem?_distinctFrom [] found
    have isFree := fun mem => free ((sameTaken index identifier).mp mem)
    exact declared.trans (congrArg some (unlike_of_not_mem isFree))
  · intro index identifier found isTaken
    have declared := getElem?_distinctFrom [] found
    rcases identifier.unlike_cases (((distinct converted).take index).reverse ++ []) with
      ⟨free, -⟩ | ⟨-, number, isFirst, same⟩
    · exact absurd ((sameTaken index _).mpr isTaken) free
    · exact ⟨number, isFirst.of_mem_iff (sameTaken index), declared.trans (congrArg some same)⟩

end Identifier

end CatalogSql
