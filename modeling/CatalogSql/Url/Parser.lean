import CatalogSql.Url.Basic

/-!
# Reading addresses

An absolute address is read from a text. White space and control characters around it
and breaks inside it are ignored. In special schemes a backslash counts as a slash and
any number of slashes may stand before the host.
-/

namespace CatalogSql.Url

/-- The text without control characters and blanks around it and without tabs and line
breaks. -/
def trimmed (text : String) : List Char :=
  let isOuter (character : Char) : Bool := character.toNat ≤ 0x20
  let inner := ((text.toList.dropWhile isOuter).reverse.dropWhile isOuter).reverse
  inner.filter fun character => !(['\t', '\n', '\r'].contains character)

/-- The scheme in small letters, and what follows its colon. -/
def cutScheme (text : List Char) : Option (List Char × List Char) :=
  let isMember (character : Char) : Bool :=
    character.isAlphanum || ['+', '-', '.'].contains character
  match text.takeWhile isMember, text.dropWhile isMember with
  | first :: rest, ':' :: following =>
      if first.isAlpha then some ((first :: rest).map Char.toLower, following) else none
  | _, _ => none

/-- Whether a character is a slash in a kind of scheme. -/
def isSlash (special : Bool) (character : Char) : Bool :=
  character == '/' || (special && character == '\\')

/-- Whether an authority ends in front of a character. -/
def endsAuthority (special : Bool) (character : Char) : Bool :=
  isSlash special character || character == '?' || character == '#'

/-! ## The authority -/

/-- Cuts a text at its last `@`. -/
def cutCredentials (text : List Char) : Option (List Char × List Char) :=
  let after := text.reverse.takeWhile (· ≠ '@')
  if after.length = text.length then none
  else some (text.take (text.length - after.length - 1), after.reverse)

/-- The encoded form of a name and a password. -/
def credentialsText (credentials : List Char) : List Char :=
  let name := percentEncoded inCredentials (credentials.takeWhile (· ≠ ':'))
  let password := percentEncoded inCredentials ((credentials.dropWhile (· ≠ ':')).drop 1)
  if name.isEmpty ∧ password.isEmpty then []
  else name ++ ((if password.isEmpty then [] else ':' :: password) ++ ['@'])

/-- The host at the start of a text, and what follows it. A colon in brackets does not
end it. -/
def cutHost (inBrackets : Bool) : List Char → List Char × List Char
  | [] => ([], [])
  | character :: rest =>
      if character = ':' ∧ ¬inBrackets then ([], character :: rest)
      else
        let inBrackets :=
          if character = '[' then true else if character = ']' then false else inBrackets
        let (host, following) := cutHost inBrackets rest
        (character :: host, following)

/-- The number after a colon. The usual number of a scheme is left out. -/
def readPort (scheme : List Char) (text : List Char) : Except Error (Option Nat) :=
  match text with
  | [] => .ok none
  | _ :: digits =>
      if digits.all Char.isDigit then
        let value := digits.foldl (fun value digit => 10 * value + (digit.toNat - 48)) 0
        if 65535 < value then .error .badPort
        else if digits.isEmpty ∨ some value = usualPort? scheme then .ok none
        else .ok (some value)
      else .error .badPort

/-- Reads an authority. What follows it starts with a slash or ends the path. -/
def readAuthority (scheme : List Char) (text following : List Char) : Except Error Authority := do
  let special := isSpecial scheme
  let (credentials, rest) := (cutCredentials text).getD ([], text)
  if credentials.isEmpty ∧ rest.isEmpty ∧ ¬text.isEmpty ∧ ¬following.isEmpty then
    throw .emptyHost
  let credentials := credentialsText credentials
  let (hostText, portText) := cutHost false rest
  if hostText.isEmpty ∧ (special ∨ ¬portText.isEmpty ∨ ¬credentials.isEmpty) then
    throw .emptyHost
  let host ← if hostText.isEmpty then pure none
    else if special then (Host.ofText hostText).map some
    else (Host.ofOpaque hostText).map some
  return ⟨credentials, host, ← readPort scheme portText⟩

/-! ## The path -/

/-- Whether a segment stands for the directory itself. -/
def isSingleDot (segment : List Char) : Bool :=
  [".", "%2e", "%2E"].contains (String.ofList segment)

/-- Whether a segment stands for the directory above. -/
def isDoubleDot (segment : List Char) : Bool :=
  ["..", "%2e%2e", "%2e%2E", "%2E%2e", "%2E%2E", "%2e.", "%2E.", ".%2e", ".%2E"].contains
    (String.ofList segment)

/-- Whether a segment names a drive. -/
def isDrive (segment : List Char) : Bool :=
  match segment with
  | [letter, mark] => letter.isAlpha && (mark == ':' || mark == '|')
  | _ => false

/-- The segments without the last one, unless it names a drive. -/
def shortened (segments : List (List Char)) : List (List Char) :=
  if segments.getLast?.any isDrive then segments else segments.dropLast

/-- Adds segments to those before them. Dots are resolved; after them the path ends in a
slash. -/
def resolved (before : List (List Char)) : List (List Char) → List (List Char)
  | [] => before
  | segment :: rest =>
      let base :=
        if isDoubleDot segment then some (shortened before)
        else if isSingleDot segment then some before
        else none
      match base with
      | some base => resolved (if rest.isEmpty then base ++ [[]] else base) rest
      | none => resolved (before ++ [percentEncoded inPath segment]) rest

/-- The segments of a text that follows the first slash of a path. -/
def segmentsOf (special : Bool) (text : List Char) : List (List Char) :=
  resolved [] (text.splitOnP (isSlash special))

/-- The path after an authority. -/
def pathOf (special : Bool) (text : List Char) : List (List Char) :=
  match text with
  | [] => if special then [[]] else []
  | first :: rest => segmentsOf special (if isSlash special first then rest else first :: rest)

/-- The path of a file: it starts with one slash, and a drive is written with a colon. -/
def filePath (segments : List (List Char)) : List (List Char) :=
  match segments.dropWhile (·.isEmpty) with
  | [] => [[]]
  | first :: rest =>
      (if isDrive first then first.take 1 ++ [':'] else first) :: rest

/-! ## Whole addresses -/

/-- Cuts off what follows the path. -/
def cutPath (text : List Char) : List Char × List Char :=
  let isPath (character : Char) : Bool := character ≠ '?' && character ≠ '#'
  (text.takeWhile isPath, text.dropWhile isPath)

/-- The encoded query and fragment that follow a path. -/
def queryAndFragment (special : Bool) (text : List Char) :
    Option (List Char) × Option (List Char) :=
  let query := match text with
    | '?' :: rest => some (percentEncoded (inQuery special) (rest.takeWhile (· ≠ '#')))
    | _ => none
  let fragment := match text.dropWhile (· ≠ '#') with
    | '#' :: rest => some (percentEncoded inFragment rest)
    | _ => none
  (query, fragment)

/-- The host of a file. A drive in its place belongs to the path. -/
def fileHost (text : List Char) : Except Error (Option Host × List Char) :=
  let hostText := text.takeWhile fun character => !isSlash true character
  if hostText.isEmpty ∨ isDrive hostText then .ok (none, text)
  else do
    let host ← Host.ofText hostText
    return (if host = .name "localhost".toList then none else some host,
      text.drop hostText.length)

/-- Reads what follows the scheme of a file. -/
def ofFile (scheme text : List Char) : Except Error Url := do
  let (pathText, rest) := cutPath text
  let (host, pathText) ← match pathText with
    | first :: second :: following =>
        if isSlash true first ∧ isSlash true second then fileHost following
        else pure (none, pathText)
    | _ => pure (none, pathText)
  let segments := filePath (segmentsOf true pathText)
  let host := if segments.head?.any isDrive then none else host
  let (query, fragment) := queryAndFragment true rest
  return ⟨scheme, some ⟨[], host, none⟩, .segments segments, query, fragment⟩

/-- Reads what follows a scheme and the slashes in front of an authority. -/
def ofAuthority (scheme text : List Char) : Except Error Url := do
  let special := isSpecial scheme
  let isMember (character : Char) : Bool := !endsAuthority special character
  let following := text.dropWhile isMember
  let authority ← readAuthority scheme (text.takeWhile isMember) following
  let (pathText, rest) := cutPath following
  let (query, fragment) := queryAndFragment special rest
  return ⟨scheme, some authority, .segments (pathOf special pathText), query, fragment⟩

/-- Reads what follows a scheme that is not special and no authority. -/
def ofPath (scheme text : List Char) : Url :=
  let (pathText, rest) := cutPath text
  let (query, fragment) := queryAndFragment false rest
  let path := match pathText with
    | '/' :: following => .segments (segmentsOf false following)
    | other => .plain (percentEncoded isControl other)
  ⟨scheme, none, path, query, fragment⟩

/-- Reads an absolute address. -/
def ofText (text : String) : Except Error Url :=
  match cutScheme (trimmed text) with
  | none => .error .noScheme
  | some (scheme, rest) =>
      if scheme = "file".toList then ofFile scheme rest
      else if isSpecial scheme then ofAuthority scheme (rest.dropWhile (isSlash true))
      else
        match rest with
        | '/' :: '/' :: following => ofAuthority scheme following
        | _ => .ok (ofPath scheme rest)

end CatalogSql.Url
