import CatalogSql.Url.Label
import CatalogSql.Url.Percent

/-!
# Hosts

The host of an address: a name or a number. In special schemes names are decoded,
lowered and written in ASCII, and a name whose last label is a number must be an
address of four bytes. Names in other schemes are kept. Addresses of eight pairs of
bytes stand in brackets.
-/

namespace CatalogSql.Url

/-- Why a text is no address. -/
inductive Error where
  | noScheme
  | emptyHost
  | badName
  | badPort
  | badNumber
  | badBracketed
  | badCharacter
deriving DecidableEq, Repr

namespace Error

/-- The words for an error. -/
def message : Error → String
  | .noScheme => "relative URL without a base"
  | .emptyHost => "empty host"
  | .badName => "invalid international domain name"
  | .badPort => "invalid port number"
  | .badNumber => "invalid IPv4 address"
  | .badBracketed => "invalid IPv6 address"
  | .badCharacter => "invalid domain character"

end Error

/-- A host: a name, four bytes as one number, or eight pairs of bytes. -/
inductive Host where
  | name (text : List Char)
  | number (value : Nat)
  | bracketed (groups : List Nat)
deriving DecidableEq, Repr

namespace Host

/-! ## Addresses of four bytes -/

/-- A number in base ten, or in base eight after a zero, or in base sixteen after `0x`. -/
def number? (text : List Char) : Option Nat :=
  match text with
  | [] => none
  | '0' :: mark :: digits =>
      if mark = 'x' ∨ mark = 'X' then inBase 16 digits else inBase 8 (mark :: digits)
  | digits => inBase 10 digits
where
  /-- The number that digits write in a base. -/
  inBase (base : Nat) (digits : List Char) : Option Nat :=
    digits.foldlM (fun value character => do
      let digit ← digitValue? character
      if digit < base then some (value * base + digit) else none) 0

/-- The labels of a name without an empty last one. -/
def labels (name : List Char) : List (List Char) :=
  let labels := name.splitOn '.'
  if labels.getLast? = some [] ∧ 1 < labels.length then labels.dropLast else labels

/-- Whether the last label of a name is a number, so that the name must be an address. -/
def endsInNumber (name : List Char) : Bool :=
  match (labels name).getLast? with
  | some label => (!label.isEmpty && label.all Char.isDigit) || (number? label).isSome
  | none => false

/-- The address that labels write: each but the last is a byte, and the last one fills
the bytes that are left. -/
def ofLabels? (labels : List (List Char)) : Option Nat := do
  if 4 < labels.length then none
  let numbers ← labels.mapM number?
  let last ← numbers.getLast?
  let bytes := numbers.dropLast
  let room := Nat.pow 256 (4 - bytes.length)
  if bytes.any (255 < ·) ∨ room ≤ last then none
  else some (bytes.foldl (256 * · + ·) 0 * room + last)

/-- The usual form of an address of four bytes. -/
def numberText (value : Nat) : List Char :=
  let bytes := [3, 2, 1, 0].map fun place => toString (value / Nat.pow 256 place % 256)
  (".".intercalate bytes).toList

/-! ## Addresses in brackets -/

/-- A group of one to four hexadecimal digits. -/
def group? (text : List Char) : Option Nat :=
  if text.isEmpty ∨ 4 < text.length then none
  else text.foldlM (fun value character => (digitValue? character).map (16 * value + ·)) 0

/-- A byte in base ten without needless zeros. -/
def byte? (text : List Char) : Option Nat :=
  if text.isEmpty ∨ 3 < text.length ∨ (1 < text.length ∧ text.head? = some '0') then none
  else if text.all Char.isDigit then
    let value := text.foldl (fun value digit => 10 * value + (digit.toNat - 48)) 0
    if value < 256 then some value else none
  else none

/-- Four bytes with points between them, as two groups. -/
def dotted? (text : List Char) : Option (List Nat) := do
  match ← (text.splitOn '.').mapM byte? with
  | [first, second, third, fourth] => some [256 * first + second, 256 * third + fourth]
  | _ => none

/-- Groups with colons between them. The last one may be four bytes at the end of an
address. -/
def groups? (atEnd : Bool) : List (List Char) → Option (List Nat)
  | [] => some []
  | [last] =>
      match group? last with
      | some group => some [group]
      | none => if atEnd then dotted? last else none
  | text :: rest => do
      let group ← group? text
      let groups ← groups? atEnd rest
      return group :: groups

/-- The groups in a part of an address, which may be empty. -/
def part? (atEnd : Bool) (text : List Char) : Option (List Nat) :=
  if text.isEmpty then some [] else groups? atEnd (text.splitOn ':')

/-- Cuts a text at its first pair of colons. -/
def cutAtGap : List Char → Option (List Char × List Char)
  | ':' :: ':' :: rest => some ([], rest)
  | character :: rest => (cutAtGap rest).map fun parts => (character :: parts.1, parts.2)
  | [] => none

/-- The eight groups of an address. A pair of colons stands for the groups that lack,
which is at least one. -/
def bracketed? (text : List Char) : Option (List Nat) :=
  match cutAtGap text with
  | none => do
      let groups ← part? true text
      if groups.length = 8 then some groups else none
  | some (before, after) => do
      let first ← part? false before
      let second ← part? true after
      let count := first.length + second.length
      if count < 8 then some (first ++ List.replicate (8 - count) 0 ++ second) else none

/-- The length of the run of zeros that groups start with. -/
def zeroRun (groups : List Nat) : Nat := (groups.takeWhile (· = 0)).length

/-- The longest run of zeros. -/
def longestRun : List Nat → Nat
  | [] => 0
  | group :: rest => max (zeroRun (group :: rest)) (longestRun rest)

/-- Groups with colons between them. -/
def joined (groups : List Nat) : List Char :=
  List.intercalate [':'] (groups.map (Nat.toDigits 16))

/-- Groups before and after the first run of zeros of a length. -/
def cutAtRun (length : Nat) : List Nat → List Nat × List Nat
  | [] => ([], [])
  | group :: rest =>
      if zeroRun (group :: rest) = length then ([], (group :: rest).drop length)
      else (group :: (cutAtRun length rest).1, (cutAtRun length rest).2)

/-- The usual form of an address in brackets: the first longest run of zeros is left
out, if it is longer than one. -/
def bracketedText (groups : List Nat) : List Char :=
  if longestRun groups < 2 then joined groups
  else
    let (before, after) := cutAtRun (longestRun groups) groups
    joined before ++ ':' :: ':' :: joined after

/-! ## Names -/

/-- The characters of ASCII that no host name of a special scheme holds. -/
def isForbidden (character : Char) : Bool :=
  character.toNat ≤ 0x20 || character.toNat = 0x7F ||
    ['%', '#', '/', ':', '<', '>', '?', '@', '[', '\\', ']', '^', '|'].contains character

/-- The characters that no host of another scheme holds. -/
def isForbiddenOpaque (character : Char) : Bool :=
  ['\x00', '\t', '\n', '\r', ' ', '#', '/', ':', '<', '>', '?', '@', '[', '\\', ']', '^',
    '|'].contains character

/-- The content of brackets around a whole text, if it starts with one. -/
def ofBrackets (text : List Char) : Except Error Host :=
  match text.getLast? with
  | some ']' =>
      match bracketed? (text.drop 1).dropLast with
      | some groups => .ok (.bracketed groups)
      | none => .error .badBracketed
  | _ => .error .badBracketed

/-- The host of a special scheme. -/
def ofText (text : List Char) : Except Error Host :=
  if text.head? = some '[' then ofBrackets text
  else
    match (percentDecoded? text).bind asciiName? with
    | none => .error .badName
    | some ascii =>
        if ascii.any isForbidden then .error .badName
        else if ascii.isEmpty then .error .emptyHost
        else if endsInNumber ascii then
          match ofLabels? (labels ascii) with
          | some value => .ok (.number value)
          | none => .error .badNumber
        else .ok (.name ascii)

/-- The host of another scheme. -/
def ofOpaque (text : List Char) : Except Error Host :=
  if text.head? = some '[' then ofBrackets text
  else if text.any isForbiddenOpaque then .error .badCharacter
  else .ok (.name (percentEncoded isControl text))

/-- The written form. -/
def text : Host → List Char
  | .name text => text
  | .number value => numberText value
  | .bracketed groups => '[' :: (bracketedText groups ++ [']'])

end Host

end CatalogSql.Url
