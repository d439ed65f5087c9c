/-
HTTP responses.

What the service answers itself comes in an envelope with data or errors; what
it refuses before it looks at the meaning of a request comes as plain text or
without a body.
-/
import DialogueStore.Json.Printer

namespace DialogueStore

namespace Http

structure Problem where
  code : String
  message : String
  deriving DecidableEq, Repr

structure Envelope where
  data : Option Json := none
  errors : List Problem := []
  /-- The path that leads here again. -/
  self : Option String := none
  deriving Inhabited

/-- The envelope with the marks of this one response put in. -/
def Envelope.toJson (e : Envelope) (marks : Json) : Json :=
  .object ((match e.data with
      | some d => [("data", d)]
      | none => []) ++ [("meta", marks)] ++
    (if e.errors.isEmpty then []
      else [("errors", .array (e.errors.map fun p =>
        .object [("code", .string p.code), ("message", .string p.message)]))]) ++
    match e.self with
    | some path => [("_links", .object [("self", .string path)])]
    | none => [])

/-- What marks one response among all others. -/
structure Marks where
  requestId : String
  timestamp : String
  elapsedMillis : Nat

def Marks.toJson (m : Marks) : Json :=
  .object [("request_id", .string m.requestId), ("timestamp", .string m.timestamp),
    ("response_time_ms", .nat m.elapsedMillis)]

/-- The last hexadecimal digits of a number. -/
def hexDigits (width n : Nat) : String :=
  String.ofList ((Nat.toDigits 16 (n % Nat.pow 16 width)).leftpad width '0')

/-- An identifier that starts with a time, so that later ones come later in the order of texts: 48
bits of time, the version 7, and random bits around the variant. -/
def timedId (millis random : Nat) : String :=
  "-".intercalate [hexDigits 8 (millis / 0x10000), hexDigits 4 millis, "7" ++ hexDigits 3 random,
    hexDigits 1 (8 + random / 0x1000 % 4) ++ hexDigits 3 (random / 0x4000),
    hexDigits 12 (random / 0x4000000)]

inductive Content
  | empty
  | envelope (e : Envelope)
  /-- Why a request is refused: what is said of all such requests, and more about this one. -/
  | refusal (text : String)
  deriving Inhabited

structure Response where
  status : Nat
  content : Content := .empty
  /-- The methods that the path knows, if that is to be said. -/
  allow : List String := []
  /-- Whether the response answers a request for leave to make another one. -/
  preflight : Bool := false
  /-- Whether the content is sent, or only its type. -/
  withBody : Bool := true
  deriving Inhabited

namespace Response

/-- The headers; a list of values is in order.  Requests may come from everywhere. -/
def headers (r : Response) : List (String × String) :=
  [("access-control-allow-origin", "*"),
    ("vary", "access-control-request-headers, access-control-request-method, origin")] ++
  (if r.preflight then
    [("access-control-allow-methods", "*"), ("access-control-allow-headers", "*")] else []) ++
  (if r.allow.isEmpty then [] else [("allow", ", ".intercalate r.allow)]) ++
  match r.content with
  | .empty => []
  | .envelope _ => [("content-type", "application/json")]
  | .refusal _ => [("content-type", "text/plain; charset=utf-8")]

def body (r : Response) (marks : Json) : String :=
  if !r.withBody then ""
  else match r.content with
    | .empty => ""
    | .envelope e => (e.toJson marks).compact
    | .refusal text => text

def ok (data : Json) (self : Option String) : Response :=
  { status := 200, content := .envelope { data := some data, self } }

def problem (status : Nat) (code message : String) : Response :=
  { status, content := .envelope { errors := [⟨code, message⟩] } }

def refusal (status : Nat) (text : String) : Response := { status, content := .refusal text }

end Response

end Http

end DialogueStore
