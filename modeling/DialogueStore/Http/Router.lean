/-
What the service answers to HTTP requests.

Paths are matched as they are written, segment by segment, and only the segment
that names a sender is decoded.  A path that is known but not with this method is
told which methods it knows, and every request for leave is granted.
-/
import DialogueStore.Http.MediaType
import DialogueStore.Http.Response
import DialogueStore.Service
import DialogueStore.Text.Percent

namespace DialogueStore

namespace Http

inductive Route
  | health
  /-- The conversation of a sender, whose id is written as this segment. -/
  | tracker (segment : String)
  | sweep
  deriving DecidableEq, Repr

namespace Route

/-- The segments of a path: what stands before, between and after its slashes. -/
def segments : List Char → List (List Char)
  | [] => [[]]
  | '/' :: rest => [] :: segments rest
  | c :: rest =>
    match segments rest with
    | [] => [[c]]
    | segment :: more => (c :: segment) :: more

def ofPath? (path : String) : Option Route :=
  match (segments path.toList).map String.ofList with
  | ["", "api", "v1", "health"] => some .health
  | ["", "api", "v1", "sweep"] => some .sweep
  | ["", "api", "v1", "trackers", segment] => if segment = "" then none else some (.tracker segment)
  | _ => none

def methods : Route → List String
  | .health => ["GET", "HEAD"]
  | .tracker _ => ["GET", "HEAD", "PUT"]
  | .sweep => ["POST"]

end Route

def trackerPath (senderId : String) : String := "/api/v1/trackers/" ++ senderId

/-- The most bytes that a body may have. -/
def bodyLimit : Nat := 2097152

/-- The record of a body, or why there is none. -/
def readRecord (r : Request) : Except Response Record :=
  if !(r.header? "content-type").any isJsonType then
    .error (.refusal 415 "Expected request with `Content-Type: application/json`")
  else if bodyLimit < r.body.length then
    .error (.refusal 413 "Failed to buffer the request body: length limit exceeded")
  else match (Json.Document.ofBytes r.body).decode Record.decode with
    | .ok record => .ok record
    | .error .malformed => .error (.refusal 400 "Failed to parse the request body as JSON")
    | .error .mismatch =>
      .error (.refusal 422 "Failed to deserialize the JSON body into the target type")

end Http

namespace Service

open Http

/-- That the service is alive, and how much it holds. -/
def health (s : Service) : Json :=
  let stats := s.state.cache.stats
  .sortedObject [("status", .string "ok"), ("version", .string version),
    ("project_id", .string s.engine.config.projectId),
    ("environment", .string s.engine.config.environment),
    ("cache", .sortedObject [("records", .nat stats.records),
      ("test_records", .nat stats.testRecords), ("cursors", .nat stats.cursors)]),
    ("event_subscribers", .nat s.bus.listenerCount)]

def getTracker (s : Service) (network : Network) (senderId : String) :
    Performed (Awaited Response) :=
  (s.retrieve network senderId).map <| .map fun
    | some t => .ok t.toJson (some (trackerPath senderId))
    | none => .problem 404 "TRACKER_NOT_FOUND" ("No tracker found for sender '" ++ senderId ++ "'")

/-- Stores the record of a body under the sender that the path names; the record may leave its own
sender out, but must not name another one.  The answer has the events as they were stored. -/
def putTracker (s : Service) (network : Network) (senderId : String) (r : Request) :
    Performed (Awaited Response) :=
  match readRecord r with
  | .error response => ⟨s, .now response, []⟩
  | .ok record =>
    if record.senderId ≠ "" ∧ record.senderId ≠ senderId then
      ⟨s, .now (.problem 400 "VALIDATION_ERROR" ("Body sender_id '" ++ record.senderId ++
        "' does not match path '" ++ senderId ++ "'")), []⟩
    else
      (s.save network { record with senderId }).map <| .map fun events =>
        .ok (.events events) (some (trackerPath senderId))

/-- Answers a request whose path has a route that knows its method. -/
def dispatch (s : Service) (network : Network) (now : Float) (r : Request) :
    Route → Performed (Awaited Response)
  | .health => ⟨s, .now (.ok s.health (some "/api/v1/health")), []⟩
  | .sweep => (s.sweep now).map fun report => .now (.ok report.toJson none)
  | .tracker segment =>
    match Percent.decode? segment with
    | none => ⟨s, .now (.refusal 400 "Invalid URL: the path is not UTF-8"), []⟩
    | some senderId =>
      if r.method = "PUT" then s.putTracker network senderId r else s.getTracker network senderId

/-- Answers a request at a time of day, at once or when the task is done that it has to wait for. -/
def respond (s : Service) (network : Network) (now : Float) (r : Request) :
    Performed (Awaited Response) :=
  let route := Route.ofPath? r.path
  let methods := (route.map Route.methods).getD []
  if r.method = "OPTIONS" then
    ⟨s, .now { status := 200, allow := methods, preflight := true }, []⟩
  else match route with
    | none => ⟨s, .now { status := 404 }, []⟩
    | some route =>
      if !methods.contains r.method then ⟨s, .now { status := 405, allow := methods }, []⟩
      else
        (s.dispatch network now r route).map <| .map fun response =>
          { response with withBody := r.method ≠ "HEAD" }

/-- Answers a request that comes alone.  Between two requests no task is under way and no lock is
taken, so that such a request never waits; one that does has no response, and no status. -/
def handle (s : Service) (network : Network) (now : Float) (r : Request) : Performed Response :=
  (s.respond network now r).map fun answer => answer.getD { status := 0 }

end Service

end DialogueStore
