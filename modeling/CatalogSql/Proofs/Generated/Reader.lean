import CatalogSql.Generated.Source
import CatalogSql.Proofs.Generated.Lexemes

/-!
# Reading generated modules

The lexemes of a generated module are read back into what they declare: the constants with the
texts they hold, the types that the catalog function builds, the members of the row structs with
the names they are renamed to, and the table that each accessor looks up. A word that has to be an
identifier must not be a keyword. What an accessor's further operations do is not read.
-/

namespace CatalogSql.Generated

/-- Reads the front of lexemes as a value, and leaves what follows. -/
abbrev Reader (α : Type) := StateT (List Lexeme) Option α

instance : DecidablePred Identifier.IsKeyword :=
  fun word => inferInstanceAs (Decidable (String.ofList word ∈ _))

namespace Reader

variable {α : Type}

/-- Takes given lexemes from the front of others. -/
def expect : List Lexeme → List Lexeme → Option (List Lexeme)
  | [], rest => some rest
  | _ :: _, [] => none
  | expected :: others, lexeme :: rest => if expected = lexeme then expect others rest else none

/-- Reads fixed code. -/
def code (fixed : String) : Reader Unit := fun lexemes =>
  (expect (Lexeme.read fixed.toList) lexemes).map fun rest => ((), rest)

/-- Reads a mark. -/
def mark (character : Char) : Reader Unit := fun lexemes =>
  (expect [.mark character] lexemes).map fun rest => ((), rest)

/-- Reads a text. -/
def text : Reader String := fun lexemes =>
  match lexemes with
  | .text value :: rest => some (value, rest)
  | _ => none

/-- Reads an identifier. -/
def identifier : Reader Identifier := fun lexemes =>
  match lexemes with
  | .name identifier :: rest =>
      if identifier.raw = false ∧ Identifier.IsKeyword identifier.word then none
      else some (identifier, rest)
  | _ => none

/-- Reads a word that stands for one of several values. -/
def choice (choices : List (String × α)) : Reader α := fun lexemes =>
  match lexemes with
  | .name ⟨word, false⟩ :: rest =>
      (Keyed.lookup? (String.ofList word) choices).map fun value => (value, rest)
  | _ => none

/-- Reads a word. -/
def word (expected : String) : Reader Unit := choice [(expected, ())]

/-- Reads what stands in brackets. -/
def within (bracket : Bracket) (reader : Reader α) : Reader α := do
  mark bracket.opened
  let value ← reader
  mark bracket.closed
  return value

/-- Reads one item after another up to a mark. Every item takes at least one lexeme, so
`remaining` is the number of lexemes at the start. -/
def itemsUpTo (closing : Char) (item : Reader α) : Nat → Reader (List α)
  | 0, _ => none
  | remaining + 1, lexemes =>
      if lexemes.head? = some (.mark closing) then some ([], lexemes)
      else (item lexemes).bind fun (value, rest) =>
        (itemsUpTo closing item remaining rest).map fun (values, rest) => (value :: values, rest)

/-- Reads the items in front of a closing mark. -/
def items (bracket : Bracket) (item : Reader α) : Reader (List α) := fun lexemes =>
  itemsUpTo bracket.closed item lexemes.length lexemes

/-- Reads items in curly brackets. -/
def block (item : Reader α) : Reader (List α) := within .curly (items .curly item)

/-- Reads items with commas between them up to a mark. -/
def separatedUpTo (closing : Char) (item : Reader α) : Nat → Reader (List α)
  | 0, _ => none
  | remaining + 1, lexemes =>
      if lexemes.head? = some (.mark closing) then some ([], lexemes)
      else (item lexemes).bind fun (value, rest) =>
        if rest.head? = some (.mark ',') then
          (separatedUpTo closing item remaining rest.tail).map fun (values, rest) =>
            (value :: values, rest)
        else some ([value], rest)

/-- Reads a list of items in square brackets. -/
def list (item : Reader α) : Reader (List α) :=
  within .square fun lexemes => separatedUpTo Bracket.square.closed item lexemes.length lexemes

/-- Takes the lexemes in front of a mark, and the mark. -/
def upTo (closing : Char) : Reader (List Lexeme)
  | [] => none
  | lexeme :: rest =>
      if lexeme = .mark closing then some ([], rest)
      else (upTo closing rest).map fun (taken, rest) => (lexeme :: taken, rest)

/-- The brackets that are open after a lexeme, the innermost first. -/
def follow (opened : List Bracket) : Lexeme → Option (List Bracket)
  | .mark character =>
      match [Bracket.round, .square, .curly].find? fun bracket =>
          character = bracket.opened ∨ character = bracket.closed with
      | none => some opened
      | some bracket =>
          if character = bracket.opened then some (bracket :: opened)
          else if opened.head? = some bracket then some opened.tail
          else none
  | _ => some opened

/-- Skips lexemes up to the closing mark of the outermost bracket that is open, with that mark. -/
def skipGroups (opened : List Bracket) : List Lexeme → Option (List Lexeme)
  | [] => none
  | lexeme :: rest =>
      match follow opened lexeme with
      | none => none
      | some [] => some rest
      | some opened => skipGroups opened rest

/-- Skips lexemes up to the closing mark of a bracket that is open, with that mark. -/
def skipRest (bracket : Bracket) : Reader Unit := fun lexemes =>
  (skipGroups [bracket] lexemes).map fun rest => ((), rest)

end Reader

/-! ## What modules declare -/

/-- A type as the catalog function builds it. -/
structure WrittenType where
  name : String
  kind : TypeKind
  fields : List (String × SemanticType)
  inputFields : List (String × SemanticType)
deriving DecidableEq, Repr

/-- A member of a row struct: the name it is renamed to, its identifier, and the type of its
values. -/
structure WrittenMember where
  rename : String
  identifier : Identifier
  valueType : List Lexeme
deriving DecidableEq, Repr

/-- An accessor: its struct, and the constant with the name of the table it looks up. -/
structure WrittenAccessor where
  record : Identifier
  implemented : Identifier
  constant : Identifier
deriving DecidableEq, Repr

/-- What a module declares, in the order of its text. -/
structure WrittenModule where
  tables : List (Identifier × String)
  fields : List (Identifier × List (Identifier × String))
  fieldTypes : List (Identifier × List (String × SemanticType))
  types : List WrittenType
  rows : List (Identifier × List WrittenMember)
  accessors : List WrittenAccessor
deriving DecidableEq, Repr

namespace Reader

variable {α : Type}

/-- Reads the description in front of an item. -/
def description : Reader Unit := do
  code "#"
  within .square do
    code "doc ="
    let _ ← text

/-- Reads a module behind its description. -/
def moduleItem (name : String) (content : Reader α) : Reader α := do
  description
  code "pub mod"
  word name
  content

/-- Reads a constant that holds a text. -/
def textConstant : Reader (Identifier × String) := do
  code "pub const"
  let identifier ← identifier
  code ": & str ="
  let value ← text
  mark ';'
  return (identifier, value)

/-- Reads a module with the constants of a table's fields. -/
def fieldConstants : Reader (Identifier × List (Identifier × String)) := do
  code "pub mod"
  let identifier ← identifier
  let constants ← block textConstant
  return (identifier, constants)

/-- Reads a semantic type as a value. -/
def typeValue : Reader SemanticType := do
  code "SemanticType ::"
  choice
    [("Id", .id), ("String", .string), ("Number", .number), ("DateTime", .dateTime),
      ("Enum", .enumeration), ("Boolean", .boolean), ("Relation", .relation), ("Json", .json),
      ("Unknown", .unknown)]

/-- Reads a kind as a value. -/
def kindValue : Reader TypeKind := do
  code "TypeKind ::"
  choice [("Table", .table), ("Reference", .reference)]

/-- Reads a field with its type. -/
def typedField : Reader (String × SemanticType) :=
  within .round do
    let name ← text
    mark ','
    let type ← typeValue
    return (name, type)

/-- Reads a constant that holds fields with their types. -/
def typesConstant : Reader (Identifier × List (String × SemanticType)) := do
  code "pub const"
  let identifier ← identifier
  code ": & [ ( & str , SemanticType ) ] = &"
  let fields ← list typedField
  code ";"
  return (identifier, fields)

/-- Reads the constants that hold the types of fields. -/
def typesConstants : Reader (List (Identifier × List (String × SemanticType))) :=
  within .curly do
    code ("use :: schema_bridge :: __reexports :: query_engine_metadata :: metadata " ++
      ":: SemanticType ;")
    items .curly typesConstant

/-- Reads an argument of the helper that collects fields. -/
def fieldsArgument : Reader (List (String × SemanticType)) :=
  within .round do
    code "&"
    list typedField

/-- Reads a type that the catalog function builds. -/
def typeInfo : Reader WrittenType := do
  code "TypeInfo"
  within .curly do
    code "name :"
    let name ← text
    code ". to_string ( ) , kind :"
    let kind ← kindValue
    code ", fields : fields"
    let fields ← fieldsArgument
    code ", input_fields : fields"
    let inputFields ← fieldsArgument
    code ","
    return ⟨name, kind, fields, inputFields⟩

/-- Reads the helper that collects fields: it collects pairs into a map, in their order. -/
def fieldsFunction : Reader Unit := do
  code "fn fields ( fields : & [ ( & str , SemanticType ) ] ) -> FieldsInfo"
  within .curly do
    code ("fields . iter ( ) . map ( | ( name , semantic_type ) | " ++
      "( ( * name ) . to_string ( ) , * semantic_type ) ) . collect ( )")

/-- Reads the catalog function: a catalog made of the types in a list. -/
def catalogFunction : Reader (List WrittenType) := do
  description
  code ("pub fn catalog ( ) -> :: schema_bridge :: __reexports " ++
    ":: query_engine_metadata :: metadata :: Catalog")
  within .curly do
    code ("use :: schema_bridge :: __reexports :: query_engine_metadata " ++ ":: metadata ::")
    within .curly (code "Catalog , FieldsInfo , SemanticType , TypeInfo , TypeKind ,")
    code ";"
    fieldsFunction
    code "Catalog :: new"
    within .round (list typeInfo)

/-- Reads a member of a row struct. -/
def member : Reader WrittenMember := do
  code "# [ serde"
  let rename ← within .round do
    code "rename ="
    let rename ← text
    code ", default , skip_serializing_if ="
    let _ ← text
    return rename
  code "] pub"
  let identifier ← identifier
  code ": :: core :: option :: Option <"
  let valueType ← upTo '>'
  mark ','
  return ⟨rename, identifier, valueType⟩

/-- Reads a row struct. -/
def rowStruct : Reader (Identifier × List WrittenMember) := do
  code ("# [ derive ( Debug , Clone , Default , PartialEq , " ++
    ":: schema_bridge :: __reexports :: serde :: Serialize , " ++
    ":: schema_bridge :: __reexports :: serde :: Deserialize , ) ] # [ serde")
  within .round do
    code "crate ="
    let _ ← text
  code "] pub struct"
  let identifier ← identifier
  let members ← block member
  return (identifier, members)

/-- Reads the function that makes an accessor: it looks a table up under a constant. -/
def newFunction : Reader Identifier := do
  code "pub fn new ( bridge : & 'a :: schema_bridge :: SchemaBridge , )"
  code "-> :: core :: result :: Result <"
  code "Self"
  code ", :: schema_bridge :: Error >"
  within .curly do
    code "bridge . table"
    let constant ← within .round do
      code "super :: tables ::"
      identifier
    code ". map ( Self )"
    return constant

/-- Reads an accessor. -/
def accessor : Reader WrittenAccessor := do
  description
  code "# [ derive ( Debug , Clone , Copy ) ] pub struct"
  let record ← identifier
  code "< 'a > ( :: schema_bridge :: TableAccessor < 'a > ) ; impl < 'a >"
  let implemented ← identifier
  code "< 'a >"
  mark Bracket.curly.opened
  let constant ← newFunction
  skipRest .curly
  return ⟨record, implemented, constant⟩

/-- Reads a module with what the catalog declares. -/
def source : Reader WrittenModule := do
  let tables ← moduleItem "tables" (block textConstant)
  let fields ← moduleItem "fields" (block fieldConstants)
  let fieldTypes ← moduleItem "field_types" typesConstants
  let types ← catalogFunction
  let rows ← moduleItem "rows" (block rowStruct)
  let accessors ← moduleItem "accessors" (block accessor)
  return ⟨tables, fields, fieldTypes, types, rows, accessors⟩

end Reader

namespace WrittenModule

/-- What the text of a module declares. -/
def read? (source : String) : Option WrittenModule := do
  let lexemes ← Lexeme.read? source.toList
  let (written, rest) ← Reader.source lexemes
  if rest = [] then return written else none

end WrittenModule

end CatalogSql.Generated
