import CatalogSql.Introspection.Service

/-!
# GraphQL services

A schema service that is asked by GraphQL introspection queries over http.
-/

namespace CatalogSql

open Json (Decoder)

namespace GraphQl

/-- The query for the names of all types. -/
def typeNamesQuery : String :=
  "query TypeNames \x7b __schema \x7b types \x7b name kind \x7d \x7d \x7d"

/-- The query for the definition of a type. -/
def typeQuery : String :=
  "query Type($name: String!) \x7b __type(name: $name) \x7b name interfaces \x7b name \x7d " ++
  "fields \x7b name type \x7b kind name ofType \x7b kind name ofType \x7b kind name \x7d \x7d " ++
  "enumValues \x7b name \x7d \x7d \x7d inputFields \x7b name type \x7b kind name " ++
  "ofType \x7b kind name \x7d \x7d \x7d \x7d \x7d"

/-- A reply: data, or messages of what went wrong. -/
structure Response (α : Type) where
  data : Option α
  errors : List String

/-- How the message of an error is read. -/
def errorRecord : Decoder.Record (Option String) String where
  name := "GraphQlError"
  fields := [.of "message" id (fun _ value => some value) Decoder.string]
  draft := none
  complete draft := Decoder.required "message" draft

/-- What has been read of a reply. -/
structure Draft (α : Type) where
  data : Option (Option α)
  errors : Option (List String)

variable {α σ : Type}

/-- How a reply is read. -/
def responseRecord (data : Decoder α) : Decoder.Record (Draft α) (Response α) where
  name := "GraphQlResponse"
  fields :=
    [.of "data" (·.data) (fun draft value => { draft with data := some value })
        (Decoder.option data),
      (Decoder.Field.of "errors" (·.errors)
        (fun draft value => { draft with errors := some value })
        (Decoder.list errorRecord.decoder)).defaulted]
  draft := ⟨none, none⟩
  complete draft := .ok ⟨draft.data.getD none, draft.errors.getD []⟩

/-- How an object of one required member is read. -/
def singleRecord (type name : String) (value : Decoder α) : Decoder.Record (Option α) α where
  name := type
  fields := [.of name id (fun _ value => some value) value]
  draft := none
  complete draft := Decoder.required name draft

/-- Reads the names of types. -/
def typeNamesDecoder : Decoder (List String) :=
  (singleRecord "SchemaData" "__schema"
    (singleRecord "SchemaTypes" "types"
      (Decoder.list (singleRecord "NamedType" "name" Decoder.string).decoder)).decoder).decoder

/-- Reads the definition of a type, which may be missing. -/
def typeDecoder : Decoder (Option TypeDefinition) :=
  Decoder.Record.decoder
    { name := "TypeData"
      fields :=
        [.of "__type" id (fun _ value => some value) (Decoder.option TypeDefinition.decoder)]
      draft := none
      complete := fun draft => .ok (draft.getD none) }

/-- Whether a text can stand in a header. -/
def fitsHeader (text : String) : Bool :=
  text.toList.all fun character =>
    character = '\t' || (0x20 ≤ character.toNat && character.toNat ≠ 0x7F)

/-- The request for a query. -/
def request (endpoint : Url) (token : Option String) (query : String)
    (bindings : List (String × Json)) : Except HttpFailure HttpRequest :=
  if (endpoint.authority.bind (·.host)).isNone then .error (.badScheme endpoint)
  else if token.all fitsHeader then
    .ok ⟨endpoint, token.map ("Bearer " ++ ·),
      .object [("query", .string query), ("variables", .object bindings)]⟩
  else .error .badHeader

/-- The data of a reply. Messages of what went wrong count even when there is data. -/
def data (decoder : Decoder α) (url : Url) (reply : HttpReply) : Except IntrospectionError α :=
  match HttpReply.failure? reply.status url with
  | some failure => .error (.request failure)
  | none =>
      match Json.decodeText (responseRecord decoder).decoder reply.body with
      | .error fault => .error (.request (.badBody fault.text))
      | .ok response =>
          if !response.errors.isEmpty then .error (.refused response.errors)
          else
            match response.data with
            | some data => .ok data
            | none => .error .missingData

/-- Sends a query and reads the data of the reply. -/
def ask (client : HttpClient σ) (endpoint : Url) (token : Option String) (query : String)
    (bindings : List (String × Json)) (decoder : Decoder α) (state : σ) :
    Except IntrospectionError α × σ :=
  match request endpoint token query bindings with
  | .error failure => (.error (.request failure), state)
  | .ok request =>
      match client.send request state with
      | (.error failure, state) => (.error (.request failure), state)
      | (.ok reply, state) => (data decoder endpoint reply, state)

/-- The schema service at an address. -/
def service (client : HttpClient σ) (endpoint : Url) (token : Option String) :
    SchemaService σ where
  typeNames state := ask client endpoint token typeNamesQuery [] typeNamesDecoder state
  definition name state :=
    ask client endpoint token typeQuery [("name", .string name)] typeDecoder state

end GraphQl

end CatalogSql
