import CatalogSql.Json.Printer
import CatalogSql.Url.Parser

/-!
# Http requests

A request to a schema service, what may come back, and what may go wrong on the way.
The network is not part of the library: a client is given as a function on a state of
its own.
-/

namespace CatalogSql

/-- A failed request as what failed and, one below the other, what caused it. -/
structure HttpFailure where
  layers : List String
deriving DecidableEq, Repr

namespace HttpFailure

/-- What failed, with all causes. -/
def message (failure : HttpFailure) : String := ": ".intercalate failure.layers

/-- The words for each layer with those below it. -/
def messages : List String → List String
  | [] => []
  | layer :: below => ": ".intercalate (layer :: below) :: messages below

/-- What failed and every cause, each with the causes below it. -/
def chain (failure : HttpFailure) : List String := messages failure.layers

/-- The words for a step that failed for an address. -/
def atUrl (step : String) (url : Url) : String := step ++ " for url (" ++ url.text ++ ")"

/-- The request could not be built, because of a header. -/
def badHeader : HttpFailure := ⟨["builder error", "failed to parse header value"]⟩

/-- The request could not be built, because of the kind of address. -/
def badScheme (url : Url) : HttpFailure :=
  ⟨[atUrl "builder error" url, "URL scheme is not allowed"]⟩

/-- The request could not be sent. -/
def unsent (url : Url) (causes : List String) : HttpFailure :=
  ⟨atUrl "error sending request" url :: causes⟩

/-- The body of a reply could not be read. -/
def badBody (cause : String) : HttpFailure := ⟨["error decoding response body", cause]⟩

end HttpFailure

/-- A request with a json body. -/
structure HttpRequest where
  url : Url
  authorization : Option String
  body : Json

/-- A reply. -/
structure HttpReply where
  status : Nat
  body : String

namespace HttpReply

/-- The usual words for a status that tells of an error. -/
def reason (status : Nat) : String :=
  match status with
  | 400 => "Bad Request"
  | 401 => "Unauthorized"
  | 402 => "Payment Required"
  | 403 => "Forbidden"
  | 404 => "Not Found"
  | 405 => "Method Not Allowed"
  | 406 => "Not Acceptable"
  | 407 => "Proxy Authentication Required"
  | 408 => "Request Timeout"
  | 409 => "Conflict"
  | 410 => "Gone"
  | 411 => "Length Required"
  | 412 => "Precondition Failed"
  | 413 => "Payload Too Large"
  | 414 => "URI Too Long"
  | 415 => "Unsupported Media Type"
  | 416 => "Range Not Satisfiable"
  | 417 => "Expectation Failed"
  | 418 => "I'm a teapot"
  | 421 => "Misdirected Request"
  | 422 => "Unprocessable Entity"
  | 423 => "Locked"
  | 424 => "Failed Dependency"
  | 426 => "Upgrade Required"
  | 428 => "Precondition Required"
  | 429 => "Too Many Requests"
  | 431 => "Request Header Fields Too Large"
  | 451 => "Unavailable For Legal Reasons"
  | 500 => "Internal Server Error"
  | 501 => "Not Implemented"
  | 502 => "Bad Gateway"
  | 503 => "Service Unavailable"
  | 504 => "Gateway Timeout"
  | 505 => "HTTP Version Not Supported"
  | 506 => "Variant Also Negotiates"
  | 507 => "Insufficient Storage"
  | 508 => "Loop Detected"
  | 510 => "Not Extended"
  | 511 => "Network Authentication Required"
  | _ => "<unknown status code>"

/-- The failure that a status stands for. -/
def failure? (status : Nat) (url : Url) : Option HttpFailure :=
  let words (side : String) : String :=
    "HTTP status " ++ side ++ " error (" ++ toString status ++ " " ++ reason status ++ ")"
  if 400 ≤ status ∧ status < 500 then some ⟨[HttpFailure.atUrl (words "client") url]⟩
  else if 500 ≤ status ∧ status < 600 then some ⟨[HttpFailure.atUrl (words "server") url]⟩
  else none

end HttpReply

/-- Sends requests; what it answers may depend on a state, which it may change. -/
structure HttpClient (σ : Type) where
  send : HttpRequest → σ → Except HttpFailure HttpReply × σ

namespace HttpClient

/-- The client of a machine without a network. -/
def unreachable : HttpClient Unit where
  send request state :=
    (.error (.unsent request.url
      ["error trying to connect", "tcp connect error",
        "Network is unreachable (os error 101)"]), state)

end HttpClient

end CatalogSql
