import FederatedPresence.Http.Status
import FederatedPresence.Names.Reply
import FederatedPresence.Names.Request
import FederatedPresence.Url.Parser

/-!
# Asking another grid for names

Names are asked for with a `POST` of a form to the authority's endpoint, the authority with
`get_display_names` behind it. The endpoint is read as a URL; it must have a host and the scheme
`http` or `https`. Credentials in it are not part of the address that is asked.

A server is a function from requests to what comes back, so an exchange is one too.
-/

namespace FederatedPresence.Names

open Text

/-! ## Endpoints -/

/-- Where an authority gives names, below its URL. -/
def endpointPath : String := "get_display_names"

/-- The endpoint of an authority, as it is written. -/
def endpoint (authority : String) : String := authority ++ endpointPath

/-- Why nothing can be sent to an endpoint. -/
inductive EndpointError where
  | noUrl
  /-- Nothing can be sent to a URL of this kind. -/
  | unusable (url : Url)
  deriving DecidableEq

def EndpointError.message : EndpointError → String
  | noUrl => "builder error"
  | unusable url => "builder error for url (" ++ url.text ++ ")"

/-- A URL without user name and password. -/
def withoutCredentials (u : Url) : Url := { u with username := [], password := [] }

/-- The characters of host names that no request can carry. -/
def isUnsendable (c : Char) : Bool :=
  c = '"' || c = '\u0060' || c = '\x7b' || c = '\x7d'

/-- A request can be sent to the URL. -/
def isUsable (u : Url) : Bool :=
  (u.scheme = "http".toList || u.scheme = "https".toList) &&
    match u.host with
    | some h => !h.chars.any isUnsendable
    | none => false

/-- The URL of an endpoint. -/
def endpointUrl (authority : String) : Except EndpointError Url :=
  match Url.ofChars? (endpoint authority).toList with
  | none => .error .noUrl
  | some u =>
    let u := withoutCredentials u
    if isUsable u then .ok u else .error (.unusable u)

/-! ## Requests and answers -/

/-- A request for names. -/
structure WireRequest where
  url : Url
  body : String
  deriving DecidableEq

/-- How names are asked for. -/
def WireRequest.method : String := "POST"

/-- The kind of body that a request has. -/
def WireRequest.contentType : String := "application/x-www-form-urlencoded"

/-- What is asked for; fragments are not sent. -/
def WireRequest.target (r : WireRequest) : String := { r.url with fragment := none }.text

/-- What a server sends back. -/
structure WireReply where
  status : Nat
  body : List UInt8
  /-- How long the body is said to be, when that is not its length. -/
  declaredLength : Option Nat
  deriving DecidableEq

/-- A server: what it sends back to a request, if anything. -/
abbrev Server := WireRequest → Option WireReply

/-- The head of the reply can be read: the status is one and announces no other answer, and a body
that is to come has a length that a body can have. -/
def WireReply.isReadable (r : WireReply) : Bool :=
  Http.isStatus r.status && !Http.isInterim r.status &&
    (Http.isBodiless r.status || r.declaredLength.all (· ≤ Http.longestBody))

/-- The body that arrives. A reply that is shorter than it says is no reply; what goes beyond the
length that is said does not count. -/
def WireReply.received (r : WireReply) : Except Failure (List UInt8) :=
  if Http.isBodiless r.status then .ok []
  else match r.declaredLength with
    | none => .ok r.body
    | some n =>
      if r.body.length < n then .error (.httpClient "error decoding response body")
      else .ok (r.body.take n)

/-! ## Exchanges -/

/-- The request for the names of some users. None is sent when there is nobody to ask for. -/
def wireRequest (authority : String) (ids : List Uuid) : Except Failure (Option WireRequest) :=
  if ids = [] then .ok none
  else match endpointUrl authority with
    | .error e => .error (.federation ("Failed to reach " ++ endpoint authority ++ ": " ++ e.message))
    | .ok url => .ok (some ⟨url, encodeRequest ids⟩)

/-- Nothing came back. -/
def noAnswer (authority : String) (url : Url) : Failure :=
  .federation ("Failed to reach " ++ endpoint authority ++ ": error sending request for url (" ++
    url.text ++ ")")

/-- The server did not accept the request. -/
def rejected (authority : String) (status : Nat) : Failure :=
  .federation ("Authority " ++ endpoint authority ++ " rejected display-name request: HTTP " ++
    Http.statusLine status)

/-- The names in what a server sent back. -/
def readWireReply (authority : String) (url : Url) : Option WireReply → Except Failure NameTable
  | none => .error (noAnswer authority url)
  | some r =>
    if !r.isReadable then .error (noAnswer authority url)
    else if !Http.isSuccess r.status then .error (rejected authority r.status)
    else match r.received with
      | .error e => .error e
      | .ok bytes => parseReply (String.ofList (Utf8.decodeLossy bytes))

/-- Asks an authority for the names of some users. -/
def ask (server : Server) (authority : String) (ids : List Uuid) : Except Failure NameTable :=
  match wireRequest authority ids with
  | .error e => .error e
  | .ok none => .ok .empty
  | .ok (some r) => readWireReply authority r.url (server r)

end FederatedPresence.Names
