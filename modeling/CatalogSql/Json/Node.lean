import CatalogSql.Json.Token

/-!
# Json nodes

The tree of a json text, with byte offsets, as far as the text can be read. A fault
does not make the tree fail: it stands in the tree where reading stopped, so that a
reader that asks for particular types meets its own complaints and those of the text
in the order of the text.
-/

namespace CatalogSql.Json

/-- How a list or an object ends: at a closing bracket, or at a fault. In front of the
first key a reader that expects a name finds a fault of its own. -/
inductive Finish where
  | closed (bracket : Nat)
  | cut (strict skipping naming : Fault)

/-- The key of an entry, with the offset after it. Strict reading may refuse it. -/
structure Key where
  text : Except Fault String
  stop : Nat

/-- A value in a json text. `start` and `stop` are the offsets of its first byte and of
the byte after it. The level of a list or object is the number of lists and objects it
lies in, itself included. -/
inductive Node where
  | null (start stop : Nat)
  | boolean (value : Bool) (start stop : Nat)
  | number (value : JsonNumber) (start stop : Nat)
  | string (value : String) (start stop : Nat)
  | dubious (strict : Fault) (start stop : Nat)
  | list (level start stop : Nat) (items : List Node) (finish : Finish)
  | object (level start stop : Nat) (members : List (Key × Node)) (finish : Finish)
  | broken (strict skipping : Fault) (start : Nat)

namespace Node

/-- The offset of the first byte. -/
def start : Node → Nat
  | .null start _ | .boolean _ start _ | .number _ start _ | .string _ start _
  | .dubious _ start _ | .list _ start _ _ _ | .object _ start _ _ _ | .broken _ _ start => start

/-- The offset after the last byte. -/
def stop : Node → Nat
  | .null _ stop | .boolean _ _ stop | .number _ _ stop | .string _ _ stop
  | .dubious _ _ stop | .list _ _ stop _ _ | .object _ _ stop _ _ => stop
  | .broken _ _ start => start

end Node

/-- A list or object whose closing bracket has not been reached, with what it holds so
far, the latest first. An object may hold a key that waits for its value. -/
inductive Frame where
  | list (start : Nat) (items : List Node)
  | object (start : Nat) (members : List (Key × Node)) (key : Option Key)

namespace Frame

/-- The frame with a further value. -/
def add (node : Node) : Frame → Frame
  | .list start items => .list start (node :: items)
  | .object start members (some key) => .object start ((key, node) :: members) none
  | .object start members none => .object start members none

/-- The node of a frame. -/
def node (level stop : Nat) (finish : Finish) : Frame → Node
  | .list start items => .list level start stop items.reverse finish
  | .object start members _ => .object level start stop members.reverse finish

end Frame

/-- What may come next. -/
inductive Expectation where
  | value
  | firstItem
  | item
  | itemSeparator
  | firstKey
  | key
  | colon
  | memberSeparator

/-- A json document: its value and the offset of anything that follows the value. -/
structure Document where
  root : Node
  trailing : Option Nat

/-- How far a text has been read: inside its value, behind its value, or to a fault. -/
inductive Progress where
  | inside (expectation : Expectation) (frames : List Frame)
  | complete (root : Node)
  | stopped (document : Document)

namespace Progress

/-- The progress after a complete value. -/
def resume (node : Node) : List Frame → Progress
  | [] => .complete node
  | frame@(.list _ _) :: outer => .inside .itemSeparator (frame.add node :: outer)
  | frame@(.object _ _ _) :: outer => .inside .memberSeparator (frame.add node :: outer)

/-- The progress after the closing bracket of the innermost frame. -/
def close (start stop : Nat) : List Frame → Progress
  | [] => .inside .value []
  | frame :: outer => resume (frame.node (outer.length + 1) stop (.closed start)) outer

/-- The progress after the key of an entry. -/
def awaitValue (key : Key) : List Frame → Progress
  | .object start members _ :: outer => .inside .colon (.object start members (some key) :: outer)
  | frames => .inside .value frames

/-- Ends all open frames around a node in which reading stopped. -/
def abandon (strict skipping : Fault) : Node → List Frame → Progress
  | node, [] => .stopped ⟨node, none⟩
  | node, frame :: outer =>
      abandon strict skipping
        ((frame.add node).node (outer.length + 1) node.start (.cut strict skipping strict))
        outer

/-- Stops where a value should be. -/
def breakValue (strict skipping : Fault) (start : Nat) (frames : List Frame) : Progress :=
  abandon strict skipping (.broken strict skipping start) frames

/-- Stops between the values of the innermost frame. -/
def breakFrame (strict skipping : Fault) (start : Nat) : List Frame → Progress
  | [] => .stopped ⟨.broken strict skipping start, none⟩
  | frame :: outer =>
      abandon strict skipping
        (frame.node (outer.length + 1) start (.cut strict skipping strict)) outer

/-- Stops in front of the first key of the innermost frame. -/
def breakFirstKey (fault naming : Fault) (start : Nat) : List Frame → Progress
  | [] => .stopped ⟨.broken fault fault start, none⟩
  | frame :: outer =>
      abandon fault fault (frame.node (outer.length + 1) start (.cut fault fault naming)) outer

/-- Stops in place of a value, for one cause. -/
def refuseValue (cause : Cause) (offset : Nat) (frames : List Frame) : Progress :=
  breakValue (.located cause (offset + 1)) (.located cause (offset + 1)) offset frames

/-- Stops between values, for one cause. -/
def refuse (cause : Cause) (offset : Nat) (frames : List Frame) : Progress :=
  breakFrame (.located cause (offset + 1)) (.located cause (offset + 1)) offset frames

/-- Stops between values where strict reading and skipping name different causes. -/
def refuseEither (strict skipping : Cause) (offset : Nat) (frames : List Frame) : Progress :=
  breakFrame (.located strict (offset + 1)) (.located skipping (offset + 1)) offset frames

/-- Reads a token where a value should start. -/
def takeValue (frames : List Frame) (token : Token) : Progress :=
  let start := token.start
  let stop := token.stop
  match token.lexeme with
  | .listStart => .inside .firstItem (.list start [] :: frames)
  | .objectStart => .inside .firstKey (.object start [] none :: frames)
  | .null => resume (.null start stop) frames
  | .boolean value => resume (.boolean value start stop) frames
  | .number value => resume (.number value start stop) frames
  | .string value => resume (.string value start stop) frames
  | .dubiousNumber strict | .dubiousString strict => resume (.dubious strict start stop) frames
  | .malformed strict skipping | .malformedString strict skipping =>
      breakValue strict skipping start frames
  | .listEnd | .objectEnd | .comma | .colon | .stray => refuseValue .valueExpected start frames

/-- Reads a token where a key should start. -/
def takeKey (frames : List Frame) (token : Token) : Progress :=
  match token.lexeme with
  | .string text => awaitValue ⟨.ok text, token.stop⟩ frames
  | .dubiousString strict => awaitValue ⟨.error strict, token.stop⟩ frames
  | .malformedString strict skipping => breakFrame strict skipping token.start frames
  | _ => refuse .keyExpected token.start frames

/-- The words for what a reader of a name expects. -/
def nameExpected : String := "variant identifier"

/-- The fault a reader that expects a name finds in a token that is no text. -/
def namingFault (token : Token) : Fault :=
  let wrong (found : Found) (offset : Nat) : Fault :=
    .located (.wrongType found nameExpected) offset
  match token.lexeme with
  | .null => wrong .null token.stop
  | .boolean value => wrong (.boolean value) token.stop
  | .number value => wrong (.number value) token.stop
  | .listStart => wrong .sequence token.start
  | .objectStart => wrong .map token.start
  | .dubiousNumber strict | .malformed strict _ => strict
  | _ => .located .valueExpected (token.start + 1)

/-- Reads a token where the first key should start. -/
def takeFirstKey (frames : List Frame) (token : Token) : Progress :=
  match token.lexeme with
  | .string _ | .dubiousString _ | .malformedString _ _ => takeKey frames token
  | _ =>
      breakFirstKey (.located .keyExpected (token.start + 1)) (namingFault token) token.start frames

/-- Reads one token. -/
def advance : Progress → Token → Progress
  | .stopped document, _ => .stopped document
  | .complete root, token => .stopped ⟨root, some token.start⟩
  | .inside expectation frames, token =>
      match expectation, token.lexeme with
      | .firstItem, .listEnd | .itemSeparator, .listEnd => close token.start token.stop frames
      | .firstKey, .objectEnd | .memberSeparator, .objectEnd => close token.start token.stop frames
      | .itemSeparator, .comma => .inside .item frames
      | .itemSeparator, _ => refuse .listCommaExpected token.start frames
      | .memberSeparator, .comma => .inside .key frames
      | .memberSeparator, _ => refuse .objectCommaExpected token.start frames
      | .colon, .colon => .inside .value frames
      | .colon, _ => refuseValue .colonExpected token.start frames
      | .item, .listEnd => refuseEither .trailingComma .valueExpected token.start frames
      | .key, .objectEnd => refuseEither .trailingComma .keyExpected token.start frames
      | .firstKey, _ => takeFirstKey frames token
      | .key, _ => takeKey frames token
      | .value, _ | .firstItem, _ | .item, _ => takeValue frames token

/-- The document when the text ends, at the given offset. -/
def finish (offset : Nat) : Progress → Document
  | .stopped document => document
  | .complete root => ⟨root, none⟩
  | .inside expectation frames =>
      let fault (cause : Cause) : Fault := .located cause offset
      let ended : Progress :=
        match expectation with
        | .value => breakValue (fault .unfinishedValue) (fault .unfinishedValue) offset frames
        | .colon => breakValue (fault .unfinishedObject) (fault .unfinishedObject) offset frames
        | .firstItem | .itemSeparator =>
            breakFrame (fault .unfinishedList) (fault .unfinishedList) offset frames
        | .item => breakFrame (fault .unfinishedValue) (fault .unfinishedValue) offset frames
        | .firstKey =>
            breakFirstKey (fault .unfinishedObject) (fault .unfinishedValue) offset frames
        | .memberSeparator =>
            breakFrame (fault .unfinishedObject) (fault .unfinishedObject) offset frames
        | .key => breakFrame (fault .unfinishedValue) (fault .unfinishedObject) offset frames
      match ended with
      | .stopped document => document
      | _ => ⟨.broken (fault .unfinishedValue) (fault .unfinishedValue) offset, none⟩

end Progress

namespace Document

/-- The document of a text. -/
def ofText (characters : List Char) : Document :=
  ((tokens characters).foldl Progress.advance (.inside .value [])).finish (byteCount characters)

end Document

namespace Node

/-- The deepest level strict reading enters. -/
def greatestLevel : Nat := 127

/-- The fault of a list or object that lies too deep. -/
def checkLevel (level start : Nat) : Except Fault Unit :=
  if greatestLevel < level then .error (.located .nestedTooDeep (start + 1)) else .ok ()

namespace Finish

/-- The fault that ends a list or object, if one does. -/
def strict : Finish → Except Fault Unit
  | .closed _ => .ok ()
  | .cut strict _ _ => .error strict

/-- The fault that ends a list or object when it is skipped. -/
def skipping : Finish → Except Fault Unit
  | .closed _ => .ok ()
  | .cut _ skipping _ => .error skipping

end Finish

mutual

/-- The json value of a node. -/
def value : Node → Except Fault Json
  | .null _ _ => .ok .null
  | .boolean value _ _ => .ok (.boolean value)
  | .number value _ _ => .ok (.number value)
  | .string value _ _ => .ok (.string value)
  | .dubious strict _ _ => .error strict
  | .broken strict _ _ => .error strict
  | .list level start _ items finish => do
      checkLevel level start
      let items ← values items
      Finish.strict finish
      return .array items
  | .object level start _ members finish => do
      checkLevel level start
      let entries ← entries members []
      Finish.strict finish
      return .object entries

/-- The json values of the items of a list. -/
def values : List Node → Except Fault (List Json)
  | [] => .ok []
  | item :: rest => do
      let value ← value item
      let values ← values rest
      return value :: values

/-- The entries of an object. A repeated key keeps its first place and takes its last
value. -/
def entries : List (Key × Node) → List (String × Json) → Except Fault (List (String × Json))
  | [], collected => .ok collected
  | (key, node) :: rest, collected => do
      let key ← key.text
      let value ← value node
      entries rest (Keyed.put key value collected)

end

mutual

/-- Skips a node: only the faults that skipping notices are reported. -/
def skip : Node → Except Fault Unit
  | .null _ _ | .boolean _ _ _ | .number _ _ _ | .string _ _ _ | .dubious _ _ _ => .ok ()
  | .broken _ skipping _ => .error skipping
  | .list _ _ _ items finish => do
      skipItems items
      Finish.skipping finish
  | .object _ _ _ members finish => do
      skipMembers members
      Finish.skipping finish

/-- Skips the items of a list. -/
def skipItems : List Node → Except Fault Unit
  | [] => .ok ()
  | item :: rest => do
      skip item
      skipItems rest

/-- Skips the members of an object. -/
def skipMembers : List (Key × Node) → Except Fault Unit
  | [] => .ok ()
  | (_, node) :: rest => do
      skip node
      skipMembers rest

end

mutual

/-- How many lists and objects lie inside each other in a node. -/
def height : Node → Nat
  | .list _ _ _ items _ => heightOfItems items + 1
  | .object _ _ _ members _ => heightOfMembers members + 1
  | _ => 0

/-- The greatest height of the items of a list. -/
def heightOfItems : List Node → Nat
  | [] => 0
  | item :: rest => max (height item) (heightOfItems rest)

/-- The greatest height of the members of an object. -/
def heightOfMembers : List (Key × Node) → Nat
  | [] => 0
  | (_, node) :: rest => max (height node) (heightOfMembers rest)

end

mutual

/-- A value as a node without a text: every offset and level is zero. -/
def ofValue : Json → Node
  | .null => .null 0 0
  | .boolean value => .boolean value 0 0
  | .number value => .number value 0 0
  | .string value => .string value 0 0
  | .array items => .list 0 0 0 (ofValues items) (.closed 0)
  | .object entries => .object 0 0 0 (ofEntries entries) (.closed 0)

/-- The nodes of the items of an array. -/
def ofValues : List Json → List Node
  | [] => []
  | item :: rest => ofValue item :: ofValues rest

/-- The nodes of the entries of an object. -/
def ofEntries : List (String × Json) → List (Key × Node)
  | [] => []
  | (key, value) :: rest => (⟨.ok key, 0⟩, ofValue value) :: ofEntries rest

end

end Node

end CatalogSql.Json
