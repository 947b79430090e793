import CatalogSql.Number.Decimal
import CatalogSql.Text.Escaped
import CatalogSql.Text.Utf8
import CatalogSql.Url.Parser

/-!
# Where databases are

The address of a database leads to a server, or to the directory of a socket on the same
machine. The query of an address may override what stands in front of it; settings it
does not know are passed over.
-/

namespace CatalogSql

/-- Where a database listens. -/
inductive DatabasePlace where
  | server (host : String) (number : Nat)
  | socket (directory : String)
deriving DecidableEq, Repr

/-- Why an address leads to no database. -/
inductive AddressFault where
  | url (error : Url.Error)
  | encoding (fault : EncodingFault)
  | unknownMode (value : String)
  | numeral (fault : NumeralFault)
  | noInternetAddress
deriving DecidableEq, Repr

namespace AddressFault

/-- The words that start the message of every fault in an address. -/
def lead : String := "error with configuration: "

/-- The words for a fault. -/
def message : AddressFault → String
  | .url error => lead ++ error.message
  | .encoding fault => lead ++ fault.message
  | .unknownMode value =>
      lead ++ lead ++ "unknown value " ++ Text.shown value ++ " for `ssl_mode`"
  | .numeral fault => lead ++ fault.message
  | .noInternetAddress => lead ++ "invalid IP address syntax"

end AddressFault

namespace DatabasePlace

/-- Where a database listens when its address does not tell. -/
def standard : DatabasePlace := .server "localhost" 5432

/-- The place on another host, or in a directory. -/
def withHost (place : DatabasePlace) (host : String) : DatabasePlace :=
  if host.startsWith "/" then .socket host
  else
    match place with
    | .server _ number => .server host number
    | .socket _ => .server host 5432

/-- The place with another number on the same host. -/
def withNumber (place : DatabasePlace) (number : Nat) : DatabasePlace :=
  match place with
  | .server host _ => .server host number
  | .socket directory => .socket directory

/-- The ways to check who a server is. -/
def verificationModes : List String :=
  ["disable", "allow", "prefer", "require", "verify-ca", "verify-full"]

/-- The text that was percent encoded. -/
def decode (text : List Char) : Except AddressFault String :=
  let bytes := Url.percentDecodedBytes text
  match Text.encodingFault? bytes with
  | some fault => .error (.encoding fault)
  | none => .ok (String.ofList ((Url.percentDecoded? text).getD []))

/-- Whether a text is an internet address. -/
def isInternetAddress (text : String) : Bool :=
  match (text.toList.splitOn '.').mapM Url.Host.byte? with
  | some bytes => bytes.length = 4
  | none => (Url.Host.bracketed? text.toList).isSome

/-- Applies one setting of a query. -/
def applySetting (place : DatabasePlace) (name value : String) :
    Except AddressFault DatabasePlace :=
  if name = "sslmode" ∨ name = "ssl-mode" then
    if verificationModes.contains (value.map Char.toLower) then .ok place
    else .error (.unknownMode value)
  else if name = "statement-cache-capacity" then
    ((Numeral.read (Nat.pow 2 64) value).mapError .numeral).map fun _ => place
  else if name = "host" then .ok (place.withHost value)
  else if name = "hostaddr" then
    if isInternetAddress value then .ok (place.withHost value) else .error .noInternetAddress
  else if name = "port" then
    ((Numeral.read (Nat.pow 2 16) value).mapError .numeral).map place.withNumber
  else .ok place

/-- The text of a part of a query, where a plus stands for a blank. -/
def formText (part : List Char) : String :=
  let blanks := part.map fun character => if character = '+' then ' ' else character
  String.ofList ((Url.percentDecoded? blanks).getD ['\uFFFD'])

/-- The settings of a query, in order. -/
def settings (query : List Char) : List (String × String) :=
  ((query.splitOn '&').filter fun part => !part.isEmpty).map fun part =>
    (formText (part.takeWhile (· ≠ '=')), formText ((part.dropWhile (· ≠ '=')).drop 1))

/-- Applies settings one after the other. -/
def applySettings (place : DatabasePlace) :
    List (String × String) → Except AddressFault DatabasePlace
  | [] => .ok place
  | (name, value) :: rest => do
      let place ← place.applySetting name value
      place.applySettings rest

/-- The place that the authority of an address names. -/
def ofAuthority (authority : Url.Authority) : Except AddressFault DatabasePlace := do
  let host := (authority.host.map Url.Host.text).getD []
  let place ←
    if host.isEmpty then pure standard
    else if (Url.percentDecodedBytes host).head? = some '/'.toUInt8 then
      (decode host).map standard.withHost
    else pure (standard.withHost (String.ofList host))
  let credentials := authority.credentials.takeWhile (· ≠ '@')
  let _ ← decode (credentials.takeWhile (· ≠ ':'))
  let _ ← decode ((credentials.dropWhile (· ≠ ':')).drop 1)
  return (authority.portNumber.map place.withNumber).getD place

/-- The place of a database by its address. -/
def ofUrl (url : Url) : Except AddressFault DatabasePlace := do
  let place ← (url.authority.map ofAuthority).getD (.ok standard)
  let _ ← decode (url.path.text.dropWhile (· = '/'))
  place.applySettings (settings (url.query.getD []))

/-- The place of a database by the text of its address. -/
def ofText (text : String) : Except AddressFault DatabasePlace :=
  match Url.ofText text with
  | .ok url => ofUrl url
  | .error error => .error (.url error)

end DatabasePlace

end CatalogSql
