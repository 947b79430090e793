import CatalogSql.Proofs.Generated.Naming
import CatalogSql.Proofs.Generated.Reads

/-!
# Generated modules can be read

The text of a generated module is read back as what it was made from, one part after another:
if the identifiers that it declares are valid, every part is read by the reader for it.
-/

namespace CatalogSql

open Generated

namespace Generated

open Token (inRound inSquare inCurly separated)

/-- A type as it is written. -/
def WrittenType.ofType (type : TypeInfo) : WrittenType :=
  ⟨type.name, type.kind, type.fields.entries, type.inputFields.entries⟩

/-- A member as it is written. -/
def WrittenMember.ofMember (member : Member) : WrittenMember :=
  ⟨member.field, member.identifier, (memberType member.type).flatMap Token.lexemes⟩

/-- What the module of a catalog declares, with names in a spelling. -/
def WrittenModule.ofCatalog (catalog : Catalog) (spelling : Spelling) : WrittenModule :=
  let tables := catalog.tableNamesIn spelling
  { tables := tables.map fun names => (names.constant, names.table.name)
    fields := tables.map fun names =>
      (names.fieldModule, names.fieldConstants.map fun field => (field.2, field.1))
    fieldTypes := tables.map fun names => (names.constant, names.table.fields.entries)
    types := catalog.allTypes.map .ofType
    rows := tables.map fun names => (names.record, names.members.map .ofMember)
    accessors := tables.map fun names => ⟨names.record, names.record, names.constant⟩ }

namespace Reads

variable {α : Type}

/-- A plain word of a module is read as itself. -/
theorem word {expected : String} {characters : List Char}
    (isText : String.ofList characters = expected)
    (isRead : Lexeme.read? characters = some [.name ⟨characters, false⟩]) :
    Reads (Reader.word expected) [.plain expected] () :=
  choice isText isRead (by simp [Keyed.lookup?])

/-- An item behind its description. -/
theorem described {description : String} {characters : List Char} {item : Reader α}
    {tokens : List Token} {value : α} (isText : String.ofList characters = description)
    (plain : ∀ character ∈ characters, character ≠ '"' ∧ character ≠ '\r')
    (reads : Reads item tokens value) :
    Reads (Reader.description >>= fun _ => item) (Generated.described description tokens) value := by
  have isPlain : ∀ character ∈ description.toList, character ≠ '"' ∧ character ≠ '\r' := by
    rwa [← isText, String.toList_ofList]
  have front : Reads Reader.description
      (Token.code "#" ++ inSquare (Token.code "doc =" ++ [.verbatim description])) () :=
    bind (code rfl (by decide)) <|
      within .square <| toMark _ <|
        bind (code rfl (by decide)) (last (verbatim isPlain) _)
  rw [Generated.described, ← List.append_assoc]
  exact front.bind reads

/-- An item in braces under a name is read as a module of that name. -/
theorem moduleItem {name : String} {characters : List Char} {content : Reader α}
    {items : List Token} {value : α} (isText : String.ofList characters = name)
    (isRead : Lexeme.read? characters = some [.name ⟨characters, false⟩])
    (reads : Reads content (inCurly items) value) :
    Reads (Reader.code "pub mod" >>= fun _ => Reader.word name >>= fun _ => content)
      (Generated.moduleItem (.plain name) items) value :=
  bind (code rfl (by decide)) (bindToken (word isText isRead) reads)

/-- The constant of a text is read as its name and the text. -/
theorem textConstant {identifier : Identifier} (valid : identifier.IsValid) (value : String) :
    Reads Reader.textConstant (Generated.textConstant identifier value) (identifier, value) :=
  bind (code rfl (by decide)) <|
    bindToken (.identifier valid) <|
      bind (code rfl (by decide)) <|
        bindToken (text value) (last (mark (by decide)) _)

/-- No constant begins with a closing brace. -/
theorem stopsAt_textConstant : StopsAt Bracket.curly.closed Reader.textConstant :=
  stopsAt_bind (stopsAt_code rfl (by decide))

/-! ## Fields and types -/

/-- The written name of a semantic type is read as the type. -/
theorem typeValue (type : SemanticType) :
    Reads Reader.typeValue (Generated.typeValue type) type := by
  refine bind (code rfl (by decide)) ?_
  cases type <;> exact choice rfl (by decide) (by simp [Keyed.lookup?])

/-- The written name of a kind of types is read as the kind. -/
theorem kindValue (kind : TypeKind) : Reads Reader.kindValue (Generated.kindValue kind) kind := by
  refine bind (code rfl (by decide)) ?_
  cases kind <;> exact choice rfl (by decide) (by simp [Keyed.lookup?])

/-- A pair of a name and a type is read as the field. -/
theorem typedField (field : String × SemanticType) :
    Reads Reader.typedField
      (inRound (.text field.1 :: .plain "," :: Generated.typeValue field.2)) field :=
  within .round <| toMark _ <| bindToken (text field.1) <|
    bindToken (mark (by decide)) <| last (typeValue field.2) _

/-- A list of fields is read as the fields in order. -/
theorem fieldList (fields : Fields) :
    Reads (Reader.list Reader.typedField) (Generated.fieldList fields) fields.entries := by
  have each : ∀ field ∈ fields.entries, Reads Reader.typedField
      (inRound (.text field.1 :: .plain "," :: Generated.typeValue field.2)) (id field) :=
    fun field _ => typedField field
  rw [← List.map_id fields.entries]
  exact list (stopsAt_within (by decide)) each

/-- A list of fields given to a function is read as the fields in order. -/
theorem fieldsArgument (fields : Fields) :
    Reads Reader.fieldsArgument (inRound (Token.code "&" ++ Generated.fieldList fields))
      fields.entries :=
  within .round <| toMark _ <| bind (code rfl (by decide)) (fieldList fields)

/-- The value of a type is read as its name, its kind and both its lists of fields. -/
theorem typeInfo (type : TypeInfo) :
    Reads Reader.typeInfo (typeInfoValue type) (.ofType type) := by
  refine bind (code rfl (by decide)) <| within .curly <| toMark _ <|
    bind (code rfl (by decide)) <| bindToken (text type.name) <|
    bind (code rfl (by decide)) <| bind (kindValue type.kind) <|
    bind (code rfl (by decide)) <| bind (fieldsArgument type.fields) <|
    bind (code rfl (by decide)) <| bind (fieldsArgument type.inputFields) <|
    last (code rfl (by decide)) _

/-- The helper that collects fields is read over. -/
theorem fieldsFunction : Reads Reader.fieldsFunction Generated.fieldsFunction () :=
  bind (code rfl (by decide)) <| within .curly <| toMark _ <|
    code (appended rfl rfl) (by decide)

/-- The function of the catalog is read as its types in order. -/
theorem catalogFunction (catalog : Catalog) :
    Reads Reader.catalogFunction (Generated.catalogFunction catalog)
      (catalog.allTypes.map .ofType) := by
  have types : Reads (Reader.list Reader.typeInfo)
      (inSquare (separated (catalog.allTypes.map typeInfoValue)))
      (catalog.allTypes.map .ofType) :=
    list (stopsAt_bind (stopsAt_code rfl (by decide))) fun type _ => typeInfo type
  exact described rfl (by simp) <|
    bind (code (appended rfl rfl) (by decide)) <| within .curly <| toMark _ <|
    bind (code (appended rfl rfl) (by decide)) <|
    bind (within .curly <| toMark _ <| code rfl (by decide)) <|
    bind (code rfl (by decide)) <| bind fieldsFunction <|
    bind (code rfl (by decide)) <| within .round <| toMark _ types

/-! ## Constants -/

section Constants

variable {tables : List TableNames} (valid : ∀ names ∈ tables, names.IsValid)
include valid

/-- The module of table names is read as one constant for each table. -/
theorem tablesModule :
    Reads (Reader.moduleItem "tables" (Reader.block Reader.textConstant))
      (Generated.tablesModule tables)
      (tables.map fun names => (names.constant, names.table.name)) :=
  described rfl (by simp) <| moduleItem rfl (by decide) <|
    block stopsAt_textConstant fun names mem => textConstant (valid names mem).constant _

/-- The module of field names is read as one module of constants for each table. -/
theorem fieldsModule :
    Reads (Reader.moduleItem "fields" (Reader.block Reader.fieldConstants))
      (Generated.fieldsModule tables)
      (tables.map fun names =>
        (names.fieldModule, names.fieldConstants.map fun field => (field.2, field.1))) := by
  refine described rfl (by simp) <| moduleItem rfl (by decide) <|
    block (stopsAt_bind (stopsAt_code rfl (by decide))) fun names mem => ?_
  have constants : Reads (Reader.block Reader.textConstant)
      (inCurly (names.fieldConstants.flatMap fun field =>
        Generated.textConstant field.2 field.1))
      (names.fieldConstants.map fun field => (field.2, field.1)) :=
    block stopsAt_textConstant fun field isField =>
      textConstant ((valid names mem).fieldConstants field isField) field.1
  exact bind (code rfl (by decide)) <|
    bindToken (.identifier (valid names mem).fieldModule) (last constants _)

/-- The constant of a table's field types is read as the fields in order. -/
theorem typesConstant {names : TableNames} (mem : names ∈ tables) :
    Reads Reader.typesConstant
      (Token.code "pub const" ++ .name names.constant ::
        (Token.code ": & [ ( & str , SemanticType ) ] = &" ++
          Generated.fieldList names.table.fields ++ Token.code ";"))
      (names.constant, names.table.fields.entries) := by
  rw [List.append_assoc]
  exact bind (code rfl (by decide)) <|
    bindToken (.identifier (valid names mem).constant) <|
    bind (code rfl (by decide)) <| bind (fieldList names.table.fields) <|
    last (code rfl (by decide)) _

/-- The module of field types is read as one constant for each table. -/
theorem fieldTypesModule :
    Reads (Reader.moduleItem "field_types" Reader.typesConstants)
      (Generated.fieldTypesModule tables)
      (tables.map fun names => (names.constant, names.table.fields.entries)) := by
  refine described rfl (by simp) <| moduleItem rfl (by decide) <|
    within .curly <| bindUpTo (code (appended rfl rfl) (by decide)) <|
    items (stopsAt_bind (stopsAt_code rfl (by decide))) fun names mem => typesConstant valid mem

/-! ## Rows -/

omit valid in
/-- The type of a member is read up to the bracket that closes the option around it. -/
theorem memberType (type : SemanticType) :
    Reads (Reader.upTo '>') (Generated.memberType type ++ [.plain ">"])
      ((Generated.memberType type).flatMap Token.lexemes) := by
  have isMark : (Token.plain ">").IsClosed ∧ (Token.plain ">").lexemes = [.mark '>'] := by
    decide +kernel
  have readable : (∀ token ∈ Generated.memberType type, token.IsClosed) ∧
      .mark '>' ∉ (Generated.memberType type).flatMap Token.lexemes := by
    cases type <;> exact readable_code rfl (by decide) (by decide)
  exact upTo readable.1 readable.2 isMark

omit valid in
/-- A member of a row is read as its identifier, its type and the name it is stored under. -/
theorem memberItem {member : Member} (valid : member.identifier.IsValid) :
    Reads Reader.member (Generated.memberItem member) (.ofMember member) := by
  have ending : Token.code "> ," = [.plain ">", .plain ","] := by decide
  have shape : Generated.memberItem member = Token.code "# [ serde" ++
      (inRound (Token.code "rename =" ++ .text member.field ::
          (Token.code ", default , skip_serializing_if =" ++
            [.text "::core::option::Option::is_none"])) ++
        (Token.code "] pub" ++ .name member.identifier ::
          (Token.code ": :: core :: option :: Option <" ++
            ((Generated.memberType member.type ++ [.plain ">"]) ++ [.plain ","])))) := by
    simp [Generated.memberItem, ending]
  rw [shape]
  exact bind (code rfl (by decide)) <|
    bind (within .round <| toMark _ <| bind (code rfl (by decide)) <|
      bindToken (text member.field) <| bind (code rfl (by decide)) <|
      last (text _) _) <|
    bind (code rfl (by decide)) <| bindToken (.identifier valid) <|
    bind (code rfl (by decide)) <| bind (memberType member.type) <|
    last (mark (by decide)) _

/-- The row of a table is read as its name and its members in order. -/
theorem rowStruct {names : TableNames} (mem : names ∈ tables) :
    Reads Reader.rowStruct (Generated.rowStruct names)
      (names.record, names.members.map .ofMember) := by
  have members : Reads (Reader.block Reader.member)
      (inCurly (names.members.flatMap Generated.memberItem)) (names.members.map .ofMember) :=
    block (stopsAt_bind (stopsAt_code rfl (by decide))) fun member isMember =>
      memberItem ((valid names mem).members member isMember)
  exact bind (code (appended (appended rfl rfl) rfl) (by decide)) <|
    bind (within .round <| toMark _ <| bind (code rfl (by decide)) <| last (text _) _) <|
    bind (code rfl (by decide)) <| bindToken (.identifier (valid names mem).record) <|
    last members _

/-- The module of rows is read as one row for each table. -/
theorem rowsModule :
    Reads (Reader.moduleItem "rows" (Reader.block Reader.rowStruct)) (Generated.rowsModule tables)
      (tables.map fun names => (names.record, names.members.map .ofMember)) :=
  described rfl (by simp) <| moduleItem rfl (by decide) <|
    block (stopsAt_bind (stopsAt_code (appended (appended rfl rfl) rfl) (by decide +kernel))) fun _ mem =>
      rowStruct valid mem

/-! ## Accessors -/

section Operations

variable {names : TableNames} (mem : names ∈ tables)
include mem

/-- The path to the name of a table is read as the name of its constant. -/
theorem tablePath :
    Reads (Reader.code "super :: tables ::" >>= fun _ => Reader.identifier)
      (Generated.tablePath names) names.constant :=
  bind (code rfl (by decide)) (.identifier (valid names mem).constant)

/-- The function that makes an accessor is read as the table it opens. -/
theorem newFunction :
    Reads Reader.newFunction (Generated.newFunction names) names.constant := by
  rw [Generated.newFunction, resultOf, List.append_assoc, List.append_assoc]
  exact bind (code rfl (by decide)) <| bind (code rfl (by decide)) <|
    bind (code rfl (by decide)) <| bind (code rfl (by decide)) <|
    within .curly <| toMark _ <| bind (code rfl (by decide)) <|
    bind (within .round (toMark _ (tablePath valid mem))) <| last (code rfl (by decide)) _

end Operations

end Constants

/-! ### Further operations -/

namespace IsBalanced

/-- A result is balanced when its value is. -/
theorem resultOf {value : List Token} (balanced : IsBalanced value) :
    IsBalanced (Generated.resultOf value) :=
  append (code rfl (by decide) (by decide)) <|
    append balanced (code rfl (by decide) (by decide))

/-- The argument for a transaction is balanced. -/
theorem transactionArgument : IsBalanced Generated.transactionArgument :=
  code (appended rfl rfl) (by decide) (by decide)

/-- The argument for a condition is balanced. -/
theorem conditionArgument : IsBalanced Generated.conditionArgument :=
  code rfl (by decide) (by decide)

/-- The argument for a selection is balanced. -/
theorem selectionArgument : IsBalanced Generated.selectionArgument :=
  code rfl (by decide) (by decide)

/-- The function that gives the accessor inside is balanced. -/
theorem accessorFunction : IsBalanced Generated.accessorFunction :=
  append (code rfl (by decide) (by decide)) <|
    within .curly <| code rfl (by decide) (by decide)

/-- The function that starts a query is balanced. -/
theorem queryManyFunction : IsBalanced Generated.queryManyFunction :=
  append (code rfl (by decide) (by decide)) <|
    append (within .round <| append (code rfl (by decide) (by decide)) <|
      append conditionArgument selectionArgument) <|
    append (resultOf (code rfl (by decide) (by decide))) <|
    within .curly <| code rfl (by decide) (by decide)

/-- The function that removes rows is balanced. -/
theorem deleteFunction : IsBalanced Generated.deleteFunction :=
  append (code rfl (by decide) (by decide)) <|
    append (within .round <| append (code rfl (by decide) (by decide)) <|
      append conditionArgument transactionArgument) <|
    append (resultOf (code rfl (by decide) (by decide))) <|
    within .curly <| code rfl (by decide) (by decide)

section Names

variable {names : TableNames} (valid : names.IsValid)
include valid

/-- The path to the row of a table is balanced. -/
theorem rowPath : IsBalanced (Generated.rowPath names) :=
  append (code rfl (by decide) (by decide)) (name valid.record)

/-- The path to the name of a table is balanced. -/
theorem tablePath : IsBalanced (Generated.tablePath names) :=
  append (code rfl (by decide) (by decide)) (name valid.constant)

/-- The type of a row that may be missing is balanced. -/
theorem optionalRow : IsBalanced (Generated.optionalRow names) :=
  append (code rfl (by decide) (by decide)) <| append (rowPath valid) <|
    code rfl (by decide) (by decide)

/-- The decoding of a row is balanced. -/
theorem decodedRow : IsBalanced (Generated.decodedRow names) :=
  append (code rfl (by decide) (by decide)) <| within .round <|
    append (tablePath valid) <| code rfl (by decide) (by decide)

/-- The decoding of a row that may be missing is balanced. -/
theorem decodedOptionalRow : IsBalanced (Generated.decodedOptionalRow names) :=
  append (code rfl (by decide) (by decide)) <|
    append (within .round <| append (code rfl (by decide) (by decide)) <|
      decodedRow valid) <|
    code rfl (by decide) (by decide)

/-- The encoding of a payload is balanced when its argument is. -/
theorem encodedPayload {payload : String} (balanced : IsBalanced [.plain ",", .plain payload]) :
    IsBalanced (Generated.encodedPayload names payload) :=
  append (code rfl (by decide) (by decide)) <|
    append (within .round <| append (tablePath valid) balanced) <|
    code rfl (by decide) (by decide)

/-- The function that reads one row is balanced. -/
theorem queryOneFunction : IsBalanced (Generated.queryOneFunction names) :=
  append (code rfl (by decide) (by decide)) <|
    append (within .round <| append (code rfl (by decide) (by decide)) <|
      append conditionArgument <| append selectionArgument transactionArgument) <|
    append (resultOf (optionalRow valid)) <| within .curly <|
    append (code rfl (by decide) (by decide)) (decodedOptionalRow valid)

/-- The function that inserts a row is balanced. -/
theorem insertFunction : IsBalanced (Generated.insertFunction names) :=
  append (code rfl (by decide) (by decide)) <|
    append (within .round <| append (code rfl (by decide) (by decide)) <|
      append (rowPath valid) <| append (code rfl (by decide) (by decide)) <|
      append transactionArgument <| code rfl (by decide) (by decide)) <|
    append (resultOf (rowPath valid)) <| within .curly <|
    append (encodedPayload valid ⟨by decide, by decide⟩) <|
    append (code rfl (by decide) (by decide)) (decodedRow valid)

/-- The function that updates rows is balanced. -/
theorem updateOneFunction : IsBalanced (Generated.updateOneFunction names) :=
  append (code rfl (by decide) (by decide)) <|
    append (within .round <| append (code rfl (by decide) (by decide)) <|
      append conditionArgument <| append (code rfl (by decide) (by decide)) <|
      append (rowPath valid) <| append (code rfl (by decide) (by decide))
      transactionArgument) <|
    append (resultOf (optionalRow valid)) <| within .curly <|
    append (encodedPayload valid ⟨by decide, by decide⟩) <|
    append (code rfl (by decide) (by decide)) (decodedOptionalRow valid)

end Names

end IsBalanced

section Accessors

variable {tables : List TableNames} (valid : ∀ names ∈ tables, names.IsValid)
include valid

/-- The accessor of a table is read as its name, its row and the table it opens; the bodies of its
other functions are balanced and read over. -/
theorem accessorItem {names : TableNames} (mem : names ∈ tables) :
    Reads Reader.accessor (Generated.accessorItem names)
      ⟨names.record, names.record, names.constant⟩ := by
  have isValid := valid names mem
  have operations : IsBalanced (Generated.accessorFunction ++
      (Generated.queryOneFunction names ++ (Generated.queryManyFunction ++
        (Generated.insertFunction names ++ (Generated.updateOneFunction names ++
          Generated.deleteFunction))))) :=
    .append .accessorFunction <| .append (.queryOneFunction isValid) <|
      .append .queryManyFunction <| .append (.insertFunction isValid) <|
      .append (.updateOneFunction isValid) .deleteFunction
  have description (words : String) : Reads Reader.description
      (Token.code "#" ++ inSquare (Token.code "doc =" ++ [.text words])) () :=
    bind (code rfl (by decide)) <| within .square <| toMark _ <|
      bind (code rfl (by decide)) (last (text words) _)
  rw [Generated.accessorItem, ← List.append_assoc]
  refine bind (description _) <|
    bind (code rfl (by decide)) <| bindToken (.identifier isValid.record) <|
    bind (code rfl (by decide)) <| bindToken (.identifier isValid.record) <|
    bind (code rfl (by decide)) <| bindToken (mark (isClosed_opening .curly)) ?_
  rw [List.append_assoc]
  exact bind (newFunction valid mem) <| last (skipRest .curly operations) _

/-- The module of accessors is read as one accessor for each table. -/
theorem accessorsModule :
    Reads (Reader.moduleItem "accessors" (Reader.block Reader.accessor))
      (Generated.accessorsModule tables)
      (tables.map fun names => ⟨names.record, names.record, names.constant⟩) :=
  described rfl (by simp) <| moduleItem rfl (by decide) <|
    block (stopsAt_bind (stopsAt_bind (stopsAt_code rfl (by decide)))) fun _ mem =>
      accessorItem valid mem

end Accessors

end Reads

end Generated

namespace Catalog

variable (catalog : Catalog) (spelling : Spelling)

/-- A whole module is read as what its catalog declares, under the names given to its tables. -/
theorem reads_source (valid : ∀ names ∈ catalog.tableNamesIn spelling, names.IsValid) :
    Reads Reader.source (catalog.moduleTokensIn spelling) (.ofCatalog catalog spelling) :=
  .bind (.tablesModule valid) <| .bind (.fieldsModule valid) <| .bind (.fieldTypesModule valid) <|
    .bind (.catalogFunction catalog) <| .bind (.rowsModule valid) <|
    .last (.accessorsModule valid) _

/-- The line in front of a module is a comment. -/
theorem run_header {characters : List Char} (isText : String.ofList characters = Generated.header)
    (skips : Reading.start.run characters = some ⟨.nothing, []⟩) :
    Reading.start.run Generated.header.toList = some ⟨.nothing, []⟩ := by
  rw [← isText, String.toList_ofList, skips]

/-- The text of a module with valid names is read as what the module is made from. -/
theorem read?_moduleTextIn (valid : ∀ names ∈ catalog.tableNamesIn spelling, names.IsValid) :
    WrittenModule.read? (catalog.moduleTextIn spelling) = some (.ofCatalog catalog spelling) := by
  have reads := reads_source catalog spelling valid
  have body := Token.run_textOf (catalog.moduleTokensIn spelling) reads.closed []
  have lexemes : Lexeme.read? (catalog.moduleTextIn spelling).toList =
      some ((catalog.moduleTokensIn spelling).flatMap Token.lexemes) := by
    rw [moduleTextIn, String.toList_append, String.toList_append, List.append_assoc, Lexeme.read?,
      Reading.run_append, run_header rfl (by decide), Option.bind_some]
    simp [body, Reading.settle]
  have runs := reads.runs []
  rw [List.append_nil] at runs
  simp [WrittenModule.read?, lexemes, runs]

end Catalog

end CatalogSql
