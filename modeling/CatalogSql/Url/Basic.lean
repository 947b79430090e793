import CatalogSql.Url.Host

/-!
# Addresses

An absolute address in its normal form: a scheme, an authority that schemes like `http`
always have, a path, a query and a fragment.
-/

namespace CatalogSql

namespace Url

/-- The host of an address, with the encoded credentials in front of it and the number
after it when that is not the usual one. The host may be empty outside special schemes. -/
structure Authority where
  credentials : List Char
  host : Option Host
  portNumber : Option Nat
deriving DecidableEq, Repr

/-- A path of segments, or one that the scheme alone gives a meaning. -/
inductive UrlPath where
  | segments (names : List (List Char))
  | plain (written : List Char)
deriving DecidableEq, Repr

namespace UrlPath

/-- The written form. -/
def text : UrlPath → List Char
  | .segments names => names.flatMap ('/' :: ·)
  | .plain written => written

end UrlPath

namespace Authority

/-- The written form. -/
def text (authority : Authority) : List Char :=
  authority.credentials ++ ((authority.host.map Host.text).getD [] ++
    (authority.portNumber.map fun number => ':' :: Nat.toDigits 10 number).getD [])

end Authority

end Url

/-- An absolute address. -/
structure Url where
  scheme : List Char
  authority : Option Url.Authority
  path : Url.UrlPath
  query : Option (List Char)
  fragment : Option (List Char)
deriving DecidableEq, Repr

namespace Url

/-- Whether schemes like `http` rule how an address is read. -/
def isSpecial (scheme : List Char) : Bool :=
  ["http", "https", "ws", "wss", "ftp", "file"].contains (String.ofList scheme)

/-- The number after the host that need not be written. -/
def usualPort? (scheme : List Char) : Option Nat :=
  match String.ofList scheme with
  | "http" | "ws" => some 80
  | "https" | "wss" => some 443
  | "ftp" => some 21
  | _ => none

/-- What stands between the scheme and the path. A path without authority does not look
like one. -/
def beforePath (url : Url) : List Char :=
  match url.authority, url.path with
  | some authority, _ => '/' :: '/' :: authority.text
  | none, .segments ([] :: _ :: _) => ['/', '.']
  | none, _ => []

/-- The written form. -/
def text (url : Url) : String :=
  String.ofList (url.scheme ++ ':' :: (url.beforePath ++ (url.path.text ++
    ((url.query.map ('?' :: ·)).getD [] ++ (url.fragment.map ('#' :: ·)).getD []))))

end Url

end CatalogSql
