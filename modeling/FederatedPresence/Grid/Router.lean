import FederatedPresence.Grid.Lookup
import FederatedPresence.Http.Message
import FederatedPresence.Names.Exchange
import FederatedPresence.Text.Json

/-!
# Answering requests

Other grids ask for names with a `POST`; operators look at records and clear the cache; monitoring
reads health and metrics. A path that is not served is not found, and a method that a path does not
serve is refused with the ones it does. Where `GET` is served `HEAD` is too, without the body.
-/

namespace FederatedPresence

open Text

/-! ## Routes -/

/-- The paths that are served. -/
inductive Route where
  | health
  | metrics
  | displayNames
  | users
  | usersOnline
  /-- One user, whose key is percent-encoded. -/
  | presence (segment : List Char)
  | cache
  deriving DecidableEq

namespace Route

/-- The route of a user, when the segment is one. -/
def ofSegment? (segment : List Char) : Option Route :=
  if segment = [] ∨ '/' ∈ segment then none else some (presence segment)

/-- The route of a path. -/
def ofPath? (path : List Char) : Option Route :=
  if path = "/health".toList then some health
  else if path = "/metrics".toList then some metrics
  else if path = '/' :: Names.endpointPath.toList then some displayNames
  else if path = "/admin/users".toList then some users
  else if path = "/admin/users/online".toList then some usersOnline
  else if path = "/admin/cache".toList then some cache
  else (after? "/admin/presence/".toList path).bind ofSegment?

/-- The methods that a route serves. -/
def methods : Route → List String
  | health | metrics | users | usersOnline => ["GET", "HEAD"]
  | displayNames => ["POST"]
  | presence _ => ["GET", "HEAD", "DELETE"]
  | cache => ["DELETE"]

/-- The methods that a route serves, as they are listed. -/
def allowed (r : Route) : String := String.intercalate "," r.methods

end Route

/-! ## Bodies -/

/-- The text that a client is shown for a failure. -/
def Failure.body (e : Failure) : List Char := Json.object [("error", Json.string e.publicMessage)]

/-- The response for a failure. -/
def Failure.response (e : Failure) : Http.Response := .json e.status e.body

/-- A record as JSON. -/
def Record.json (r : Record) : List Char :=
  Json.object [("user_id", Json.string r.userId), ("data", Json.ofMap r.fields)]

/-- A count under a name, as JSON. -/
def countBody (name : String) (n : Nat) : List Char := Json.object [(name, digits n)]

/-- The size in bytes up to which bodies are read. -/
def longestBody : Nat := 2097152

/-- The text of a body, or how it is refused. -/
def readBody (body : List UInt8) : Except Http.Response String :=
  if longestBody < body.length then
    .error (.plain 413 "Failed to buffer the request body: length limit exceeded")
  else match Utf8.decode body with
    | .ok cs => .ok (String.ofList cs)
    | .error e =>
      .error (.plain 400 ("Request body didn't contain valid UTF-8: " ++ e.message))

/-- The user key in a path, or how it is refused. -/
def readUserKey (segment : List Char) : Except Http.Response String :=
  match Utf8.decode (Percent.decode segment) with
  | .ok cs => .ok (String.ofList cs)
  | .error _ => .error (.plain 400 "Invalid URL: Invalid UTF-8 in \u0060user_id\u0060")

/-- The text that records are asked for by, without blanks at its ends, or how it is refused. It may
be given once. -/
def readStart (query : List Char) : Except Http.Response String :=
  match (Form.parse query).filter fun pair => pair.1 = "prefix".toList with
  | [] => .ok ""
  | [pair] => .ok (String.ofList (strip isBlank pair.2))
  | _ => .error (.plain 400
      "Failed to deserialize query string: duplicate field \u0060prefix\u0060")

/-! ## Answers -/

namespace Grid

variable {σ : Type}

/-- Tells a client of a failure, and counts it. -/
def refuse (g : Grid σ) (e : Failure) : Http.Response × Grid σ :=
  (e.response, { g with metrics := g.metrics.observeFailure e })

/-- The metrics, after the size of the cache was reported. -/
def metricsResponse (g : Grid σ) : Http.Response × Grid σ :=
  let g := { g with cache := g.cache.report }
  (.typed 200 "text/plain; version=0.0.4" (g.metrics.expositionWith g.cache), g)

/-- Forgets a user. -/
def forgetResponse (g : Grid σ) (userId : String) : Http.Response × Grid σ :=
  let (removed, g) := g.forget (canonicalKey userId)
  (.json 200 (countBody "removed" (if removed then 1 else 0)), g)

/-- Forgets everybody. -/
def forgetAllResponse (g : Grid σ) : Http.Response × Grid σ :=
  let (removed, g) := g.forgetAll
  (.json 200 (countBody "removed" removed), g)

variable [RecordStore σ]

/-- The names of some users, by canonical key. Users without a name are left out. -/
def namesFor (g : Grid σ) : List String → List (String × String) × Grid σ
  | [] => ([], g)
  | id :: ids =>
    let (found, g) := g.resolve id
    let (rest, g) := namesFor g ids
    match found with
    | some p =>
      if p.displayName = "" then (rest, g) else ((canonicalKey p.userId, p.displayName) :: rest, g)
    | none => (rest, g)

/-- The reply to a form that asks for names. There is nothing to say when it asks for nobody. -/
def namesReply (g : Grid σ) (form : String) : String × Grid σ :=
  match Names.requestedIds form with
  | [] => ("", g)
  | id :: ids =>
    let (names, g) := g.namesFor (id :: ids)
    (Names.renderReply names, g)

/-- The records whose user keys begin with a text, which must not be empty. -/
def usersResponse (g : Grid σ) (start : String) : Http.Response × Grid σ :=
  if start = "" then g.refuse (.validation "prefix must not be empty")
  else match g.listRecords start with
    | (.ok records, g) => (.json 200 (Json.array (records.map Record.json)), g)
    | (.error e, g) => g.refuse e

/-- How many users came online recently. -/
def onlineResponse (g : Grid σ) : Http.Response × Grid σ :=
  match g.countRecentlyOnline with
  | (.ok n, g) => (.json 200 (countBody "count" n), g)
  | (.error e, g) => g.refuse e

/-- The record of a user. -/
def presenceResponse (g : Grid σ) (userId : String) : Http.Response × Grid σ :=
  match g.resolve userId with
  | (some p, g) => (.json 200 p.toRecord.json, g)
  | (none, g) => g.refuse .notFound

/-- Answers with what was read from a request, or with how it is refused. -/
def afterReading {α : Type} (g : Grid σ) (read : Except Http.Response α)
    (answer : α → Http.Response × Grid σ) : Http.Response × Grid σ :=
  match read with
  | .ok a => answer a
  | .error r => (r, g)

/-- Answers a request on a route whose method it serves. Deleting is for the routes that serve
nothing else, and for a user. -/
def serve (g : Grid σ) (r : Http.Request) : Route → Http.Response × Grid σ
  | .health => (.plain 200 "OK", g)
  | .metrics => g.metricsResponse
  | .displayNames => g.afterReading (readBody r.body) fun form =>
    let (xml, g) := g.namesReply form
    (.typed 200 "text/xml" xml, g)
  | .users => g.afterReading (readStart (Http.query r.target)) g.usersResponse
  | .usersOnline => g.onlineResponse
  | .presence segment => g.afterReading (readUserKey segment)
    (if r.method = "DELETE" then g.forgetResponse else g.presenceResponse)
  | .cache => g.forgetAllResponse

/-- Answers a request. -/
def handle (g : Grid σ) (r : Http.Request) : Http.Response × Grid σ :=
  match Route.ofPath? (Http.path r.target) with
  | none => (.empty 404, g)
  | some route =>
    if route.methods.contains r.method then
      let (response, g) := g.serve r route
      (if r.method = "HEAD" then response.withoutBody else response, g)
    else ({ Http.Response.empty 405 with allow := some route.allowed }, g)

end Grid

end FederatedPresence
