import VideoWall.Http.MediaType
import VideoWall.Http.Response
import VideoWall.Http.Target
import VideoWall.Page
import VideoWall.Page.Style
import VideoWall.Session

/-!
# The web interface

Nine paths, each with one method.  A body is read only where one is wanted, and only if its media
type says that it is JSON; whatever is refused leaves the session as it is.
-/

namespace VideoWall.Http

inductive Route where
  | page
  | style
  | view
  | panels
  | streams
  | config
  | baseUrl
  | selection
  | rescan
  deriving DecidableEq, Repr

namespace Route

def ofPath : String → Option Route
  | "/" => some page
  | "/static/style.css" => some style
  | "/api/view" => some view
  | "/api/panels" => some panels
  | "/api/streams" => some streams
  | "/api/config" => some config
  | "/api/base-url" => some baseUrl
  | "/api/selection" => some selection
  | "/api/rescan" => some rescan
  | _ => none

/-- Whether the route only shows something. -/
def isRead : Route → Bool
  | page | style | view | panels | streams => true
  | config | baseUrl | selection | rescan => false

/-- The methods of the route. -/
def allow (r : Route) : String := if r.isRead then "GET,HEAD" else "POST"

end Route

/-! ## Bodies -/

/-- The body of a request to switch backends. -/
structure BaseUrlRequest where
  baseUrl : String := ""

open Json in
def BaseUrlRequest.record : Record BaseUrlRequest where
  name := "BaseUrlRequest"
  blank := {}
  partialLists := false
  fields := [(field "base_url" Decoder.text fun a r => { r with baseUrl := a }).require]

/-- The body of a request to select streams. -/
structure SelectionRequest where
  streams : List String := []

open Json in
def SelectionRequest.record : Record SelectionRequest where
  name := "SelectionRequest"
  blank := {}
  partialLists := false
  fields :=
    [(field "streams" (Decoder.list Decoder.text) fun a r => { r with streams := a }).require]

/-- Whether the body of a request is said to be JSON. -/
def Request.hasJson (r : Request) : Bool :=
  match r.contentType with
  | none => false
  | some text => ((MediaType.parse text).map MediaType.isJson).getD false

/-- What a fault in a body is answered: a text that is no JSON is a bad request, and JSON that is
not what is wanted cannot be processed. -/
def refusal (fault : Json.Fault) (body : Json.Bytes) : Response :=
  if fault.cause.isMismatch then
    .plain 422 ("Failed to deserialize the JSON body into the target type: " ++
      fault.messageWithPath body)
  else .plain 400 ("Failed to parse the request body as JSON: " ++ fault.messageWithPath body)

/-- The value at the head of the body of a request, or why it is refused; what follows the value is
not looked at. -/
def readBody {σ : Type} (record : Json.Record σ) (r : Request) : Except Response σ :=
  if !r.hasJson then
    .error (.plain 415 "Expected request with \x60Content-Type: application/json\x60")
  else
    match Json.readHead record.decode r.body with
    | .ok a => .ok a
    | .error fault => .error (refusal fault r.body)

/-! ## Handling -/

/-- A request is answered at once, or when a call has ended. -/
inductive Handled where
  | answered (r : Response)
  | awaiting (call : Nat)
  deriving Repr

/-- The answer after a call has ended. -/
def ofResult : Except DashboardError Snapshot → Response
  | .ok snapshot => .json 200 snapshot.toJson
  | .error e => .ofError e

/-- What a route shows. -/
def show? (s : Session) : Route → Option Response
  | .page => some (.html (Page.render (Page.page (s.snapshot s.now))))
  | .style => some (.css Page.style)
  | .view => some (.json 200 (s.snapshot s.now).toJson)
  | .panels => some (.json 200 (s.panels s.now).toJson)
  | .streams => some (.json 200 (idsToJson (s.dashboard.catalog.streams?.getD [])))
  | _ => none

/-- What a route does with a request. -/
def act (s : Session) (r : Request) : Route → Session × Handled
  | .config =>
    match readBody ConfigPatch.record r with
    | .error response => (s, .answered response)
    | .ok patch =>
      let s := s.updateConfig patch
      (s, .answered (.json 200 s.dashboard.config.toJson))
  | .baseUrl =>
    match readBody BaseUrlRequest.record r with
    | .error response => (s, .answered response)
    | .ok request =>
      match s.setBaseUrl request.baseUrl with
      | .error e => (s, .answered (.ofError e))
      | .ok (s, call) => (s, .awaiting call)
  | .selection =>
    match readBody SelectionRequest.record r with
    | .error response => (s, .answered response)
    | .ok request =>
      match s.select request.streams with
      | .error e => (s, .answered (.ofError e))
      | .ok s => (s, .answered (.json 200 (s.snapshot s.now).toJson))
  | .rescan =>
    let (s, call) := s.rescan
    (s, .awaiting call)
  | _ => (s, .answered .notFound)

def Request.path (r : Request) : String := Target.path r.target

/-- Every method is told what is allowed. -/
def preflight (route : Option Route) : Response :=
  { status := 200
    headers := (match route with
      | some r => [("allow", r.allow)]
      | none => []) ++
      [("access-control-allow-methods", "*"), ("access-control-allow-headers", "*")] }

/-- Handles a request; the response is not shared yet. -/
def route (s : Session) (r : Request) : Session × Handled :=
  match r.method, Route.ofPath r.path with
  | "OPTIONS", route => (s, .answered (preflight route))
  | _, none => (s, .answered .notFound)
  | method, some route =>
    match show? s route with
    | some response =>
      if method = "GET" then (s, .answered response)
      else if method = "HEAD" then (s, .answered response.bodiless)
      else (s, .answered (.methodNotAllowed route.allow))
    | none =>
      if method = "POST" then act s r route
      else (s, .answered (.methodNotAllowed route.allow))

/-- Handles a request. -/
def handle (s : Session) (r : Request) : Session × Handled :=
  match route s r with
  | (s, .answered response) => (s, .answered response.shared)
  | (s, .awaiting call) => (s, .awaiting call)

end VideoWall.Http
