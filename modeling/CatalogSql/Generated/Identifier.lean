/-!
# Identifiers

The identifiers of generated code. Any text gives one: characters that cannot stand in
an identifier become underscores, and keywords are written raw or with an underscore
after them. Identifiers of one scope are kept distinct by numbers after the later ones.
-/

namespace CatalogSql

/-- An identifier, possibly written raw to tell it from a keyword. -/
structure Identifier where
  word : List Char
  raw : Bool
deriving DecidableEq, Repr

namespace Identifier

/-- Whether a character can stand in an identifier. -/
def allows (character : Char) : Bool := character.isAlphanum || character == '_'

/-- The keywords that cannot be written raw. -/
def reserved : List String := ["self", "Self", "super", "crate"]

/-- The keywords that can be written raw. -/
def keywords : List String :=
  ["abstract", "as", "async", "await", "become", "box", "break", "const", "continue", "do",
    "dyn", "else", "enum", "extern", "false", "final", "fn", "for", "if", "impl", "in", "let",
    "loop", "macro", "match", "mod", "move", "mut", "override", "priv", "pub", "ref", "return",
    "static", "struct", "trait", "true", "try", "type", "typeof", "unsafe", "unsized", "use",
    "virtual", "where", "while", "yield"]

/-- The word that stands for a text. One that would hold nothing but underscores is
replaced by the placeholder, and none starts with a digit. -/
def wordOfText (placeholder : List Char) (text : List Char) : List Char :=
  let word := text.map fun character => if allows character then character else '_'
  if word.all (· == '_') then placeholder
  else if (word.head?.any (·.isDigit)) then '_' :: word
  else word

/-- The identifier for a word. -/
def ofWord (word : List Char) : Identifier :=
  if reserved.contains (String.ofList word) then ⟨word ++ ['_'], false⟩
  else ⟨word, keywords.contains (String.ofList word)⟩

/-- The identifier for a text. -/
def ofText (placeholder : String) (text : List Char) : Identifier :=
  ofWord (wordOfText placeholder.toList text)

/-- The written form. -/
def text (identifier : Identifier) : String :=
  String.ofList (if identifier.raw then 'r' :: '#' :: identifier.word else identifier.word)

/-- The identifier with a number after it. -/
def numbered (identifier : Identifier) (number : Nat) : Identifier :=
  ⟨identifier.word ++ '_' :: Nat.toDigits 10 number, false⟩

/-- The numbers tried to tell an identifier from those taken: one more than those. -/
def candidates (identifier : Identifier) (taken : List Identifier) : List Identifier :=
  (List.range (taken.length + 1)).map fun index => identifier.numbered (index + 2)

/-- The identifier if it is free, and otherwise with the first number that makes it so. -/
def unlike (identifier : Identifier) (taken : List Identifier) : Identifier :=
  if identifier ∈ taken then
    ((identifier.candidates taken).find? fun candidate => candidate ∉ taken).getD identifier
  else identifier

/-- Makes identifiers distinct from those taken and from each other. -/
def distinctFrom (taken : List Identifier) : List Identifier → List Identifier
  | [] => []
  | identifier :: rest =>
      identifier.unlike taken :: distinctFrom (identifier.unlike taken :: taken) rest

/-- Makes the identifiers of a scope distinct. -/
def distinct (identifiers : List Identifier) : List Identifier := distinctFrom [] identifiers

@[simp] theorem length_distinctFrom (taken identifiers : List Identifier) :
    (distinctFrom taken identifiers).length = identifiers.length := by
  induction identifiers generalizing taken with
  | nil => rfl
  | cons identifier rest inductionHypothesis => simp [distinctFrom, inductionHypothesis]

@[simp] theorem length_distinct (identifiers : List Identifier) :
    (distinct identifiers).length = identifiers.length := length_distinctFrom [] identifiers

end Identifier

end CatalogSql
