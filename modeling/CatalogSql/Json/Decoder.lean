import CatalogSql.Json.Node
import CatalogSql.Keyed.Sorted

/-!
# Json decoders

A decoder reads a value of a particular type from a json text or from a json value.
The first complaint in the order of the text is the one reported, whether it concerns
the types or the text itself. Keys a record does not know are skipped.
-/

namespace CatalogSql.Json

/-- What a node was made from. -/
inductive Origin where
  | text
  | value
deriving DecidableEq

/-- Reads a node as a value of a type. -/
abbrev Decoder (α : Type) := Origin → Node → Except Fault α

namespace Decoder

variable {α β σ : Type}

/-- The complaint about a node of the wrong type. A list or object is not entered, so
the place is in front of it; anything else has been read. -/
def wrongType (expected : String) : Node → Fault
  | .null _ stop => .located (.wrongType .null expected) stop
  | .boolean value _ stop => .located (.wrongType (.boolean value) expected) stop
  | .number value _ stop => .located (.wrongType (.number value) expected) stop
  | .string value _ stop => .located (.wrongType (.string value) expected) stop
  | .dubious strict _ _ => strict
  | .list _ start _ _ _ => .located (.wrongType .sequence expected) start
  | .object _ start _ _ _ => .located (.wrongType .map expected) start
  | .broken strict _ _ => strict

/-- Any json value. -/
def json : Decoder Json := fun _ node => node.value

/-- A text. -/
def string : Decoder String := fun _ node =>
  match node with
  | .string value _ _ => .ok value
  | other => .error (wrongType "a string" other)

/-- A truth value. -/
def boolean : Decoder Bool := fun _ node =>
  match node with
  | .boolean value _ _ => .ok value
  | other => .error (wrongType "a boolean" other)

/-- A double; integers are rounded. -/
def double : Decoder Double := fun _ node =>
  match node with
  | .number value _ _ => .ok value.toDouble
  | other => .error (wrongType "f64" other)

/-- A natural number below a bound. -/
def natural (bound : Nat) (expected : String) : Decoder Nat := fun _ node =>
  match node with
  | .number (.integer value) _ stop =>
      if 0 ≤ value ∧ value < bound then .ok value.toNat
      else .error (.located (.wrongValue (.number (.integer value)) expected) stop)
  | other => .error (wrongType expected other)

/-- A value or null. -/
def option (decoder : Decoder α) : Decoder (Option α) := fun origin node =>
  match node with
  | .null _ _ => .ok none
  | other => (decoder origin other).map some

/-- Reads the items of a list in order. -/
def items (decoder : Decoder α) (origin : Origin) : List Node → Except Fault (List α)
  | [] => .ok []
  | node :: rest => do
      let item ← (decoder origin node).mapError (·.orAt (.closingList node.stop))
      let following ← items decoder origin rest
      return item :: following

/-- A list. -/
def list (decoder : Decoder α) : Decoder (List α) := fun origin node =>
  match node with
  | .list level start _ nodes finish => do
      Node.checkLevel level start
      let values ← items decoder origin nodes
      Node.Finish.strict finish
      return values
  | other => .error (wrongType "a sequence" other)

/-- Reads the entries of an object in order. -/
def members (decoder : Decoder α) (origin : Origin) :
    List (Key × Node) → Except Fault (List (String × α))
  | [] => .ok []
  | (key, node) :: rest => do
      let text ← key.text
      let value ← (decoder origin node).mapError (·.orAt (.closingObject node.stop))
      let following ← members decoder origin rest
      return (text, value) :: following

/-- The entries of an object, repetitions included. -/
def entries (decoder : Decoder α) : Decoder (List (String × α)) := fun origin node =>
  match node with
  | .object level start _ nodes finish => do
      Node.checkLevel level start
      let values ← members decoder origin nodes
      Node.Finish.strict finish
      return values
  | other => .error (wrongType "a map" other)

/-- An object as a map in the order of its keys' first places. -/
def orderedMap (decoder : Decoder α) : Decoder (OrderedMap α) := fun origin node =>
  (entries decoder origin node).map OrderedMap.ofList

/-- An object as a map in ascending order of its keys. -/
def sortedMap (decoder : Decoder α) : Decoder (SortedMap α) := fun origin node =>
  (entries decoder origin node).map SortedMap.ofList

/-! ## Choices by name -/

/-- The choice a name stands for. -/
def choose (choices : List (String × α)) (name : String) : Except Cause α :=
  match Keyed.lookup? name choices with
  | some choice => .ok choice
  | none => .error (.unknownVariant name (choices.map (·.1)))

/-- The null that may follow a name. -/
def unit : Decoder Unit := fun _ node =>
  match node with
  | .null _ _ => .ok ()
  | other => .error (wrongType "unit" other)

/-- A choice in a text written as an object of its name and null. -/
def choiceMember (choices : List (String × α)) (origin : Origin) :
    List (Key × Node) → Finish → Except Fault α
  | [], .closed bracket => .error (.located .valueExpected (bracket + 1))
  | [], .cut _ _ naming => .error naming
  | (key, node) :: rest, finish => do
      let name ← key.text
      let choice ← (choose choices name).mapError (.located · key.stop)
      unit origin node
      match rest, finish with
      | [], .closed _ => return choice
      | [], .cut ⟨.unfinishedObject, place⟩ _ _ => .error ⟨.unfinishedObject, place⟩
      | _, _ => .error ⟨.valueExpected, .closingObject node.stop⟩

/-- One of several choices, given by its name or by an object of its name and null. -/
def choice (choices : List (String × α)) : Decoder α := fun origin node =>
  match node, origin with
  | .string name _ stop, _ => (choose choices name).mapError (.located · stop)
  | .object level start _ nodes finish, .text => do
      Node.checkLevel level start
      choiceMember choices origin nodes finish
  | .object _ _ _ [(key, node)] _, .value => do
      let name ← key.text
      let choice ← (choose choices name).mapError .free
      unit origin node
      return choice
  | .object _ _ _ _ _, .value =>
      .error (.free (.wrongValue .map "map with a single key"))
  | .dubious strict start _, .text => .error (choiceFault strict start)
  | .broken strict _ start, .text => .error (choiceFault strict start)
  | other, .text => .error (.located .valueExpected (other.start + 1))
  | other, .value => .error (wrongType "string or map" other)
where
  /-- A number or a word is refused by its first character, before its own fault. -/
  choiceFault (strict : Fault) (start : Nat) : Fault :=
    match strict.cause with
    | .badNumber | .numberOutOfRange | .wordExpected => .located .valueExpected (start + 1)
    | .unfinishedValue =>
        if strict.place = .offset start then strict else .located .valueExpected (start + 1)
    | _ => strict

/-! ## Records -/

/-- How one field of a record is read into a draft of the record. -/
structure Field (σ : Type) where
  name : String
  /-- Whether the draft already holds the field. -/
  isGiven : σ → Bool
  /-- Puts the field's value into the draft. -/
  read : Origin → Node → σ → Except Fault σ
  /-- Whether the record, when given as a list, may end in front of the field. -/
  optional : Bool

namespace Field

/-- A field read by a decoder and kept in an optional slot of the draft. -/
def of (name : String) (get : σ → Option α) (set : σ → α → σ) (decoder : Decoder α) : Field σ :=
  ⟨name, fun draft => (get draft).isSome, fun origin node draft =>
    (decoder origin node).map (set draft), false⟩

/-- The same field with a value of its own when it is left out. -/
def defaulted (field : Field σ) : Field σ := { field with optional := true }

end Field

/-- How a record is read: by the names of its fields, or as a list in their order. -/
structure Record (σ α : Type) where
  name : String
  fields : List (Field σ)
  draft : σ
  /-- The record of a draft, or the first field that is missing. -/
  complete : σ → Except Cause α

namespace Record

/-- Reads the members of an object into a draft. -/
def readMembers (record : Record σ α) (origin : Origin) :
    List (Key × Node) → σ → Except Fault σ
  | [], draft => .ok draft
  | (key, node) :: rest, draft => do
      let name ← key.text
      match record.fields.find? (·.name == name) with
      | none => do
          node.skip
          record.readMembers origin rest draft
      | some field =>
          if field.isGiven draft then .error ⟨.duplicateField name, .closingObject key.stop⟩
          else do
            let draft ← (field.read origin node draft).mapError (·.orAt (.closingObject node.stop))
            record.readMembers origin rest draft

/-- The complaint when a list ends in front of a field. -/
def tooShort (record : Record σ α) (index : Nat) : Cause :=
  let count := record.fields.length
  .wrongLength index ("struct " ++ record.name ++ " with " ++ toString count ++
    (if count = 1 then " element" else " elements"))

/-- Reads the items of a list into a draft, returning the items that are left. -/
def readItems (record : Record σ α) (origin : Origin) (finish : Finish) (index : Nat) :
    List (Field σ) → List Node → σ → Except Fault (σ × List Node)
  | [], nodes, draft => .ok (draft, nodes)
  | field :: fields, node :: nodes, draft => do
      let draft ← (field.read origin node draft).mapError (·.orAt (.closingList node.stop))
      record.readItems origin finish (index + 1) fields nodes draft
  | field :: fields, [], draft =>
      match finish with
      | .cut strict _ _ => .error strict
      | .closed bracket =>
          if field.optional then record.readItems origin finish (index + 1) fields [] draft
          else .error ⟨record.tooShort index, .closingList bracket⟩

/-- Checks that a list ends after the items taken. -/
def checkEnd (origin : Origin) (total : Nat) (finish : Finish) : List Node → Except Fault Unit
  | node :: _ =>
      match origin with
      | .text => .error (.located .trailingCharacters (node.start + 1))
      | .value => .error (.free (.wrongLength total "fewer elements in array"))
  | [] =>
      match finish with
      | .closed _ => .ok ()
      | .cut ⟨.listCommaExpected, place⟩ _ _ => .error ⟨.trailingCharacters, place⟩
      | .cut ⟨.unfinishedValue, place⟩ _ _ => .error ⟨.trailingCharacters, place⟩
      | .cut strict _ _ => .error strict

/-- The decoder of a record. -/
def decoder (record : Record σ α) : Decoder α := fun origin node =>
  match node with
  | .object level start stop nodes finish => do
      Node.checkLevel level start
      let draft ← record.readMembers origin nodes record.draft
      Node.Finish.strict finish
      (record.complete draft).mapError fun cause => ⟨cause, .offset stop⟩
  | .list level start _ nodes finish => do
      Node.checkLevel level start
      let (draft, left) ← record.readItems origin finish 0 record.fields nodes record.draft
      checkEnd origin nodes.length finish left
      (record.complete draft).mapError .free
  | other => .error (wrongType ("struct " ++ record.name) other)

end Record

/-- A required field of a draft. -/
def required (name : String) (slot : Option α) : Except Cause α :=
  match slot with
  | some value => .ok value
  | none => .error (.missingField name)

end Decoder

/-- Reads a text as a value of a type. Nothing but white space may follow the value. -/
def decodeText {α : Type} (decoder : Decoder α) (text : String) : Except TextFault α :=
  let characters := text.toList
  let document := Document.ofText characters
  match decoder .text document.root with
  | .error fault => .error (fault.inText characters)
  | .ok value =>
      match document.trailing with
      | none => .ok value
      | some start => .error (Fault.inText (.located .trailingCharacters (start + 1)) characters)

/-- Reads a json value as a value of a type. -/
def decodeValue {α : Type} (decoder : Decoder α) (value : Json) : Except Cause α :=
  (decoder .value (Node.ofValue value)).mapError (·.cause)

/-- The json value of a text. -/
def ofText (text : String) : Except TextFault Json := decodeText Decoder.json text

end CatalogSql.Json
