/-
The remote store's protocol: operation documents, and what an answer to one
means.

`Client.fetchReply` and `Client.writeReply` read an answer.  The status is looked
at first, then the whole body is decoded, and then the errors that it names:
data beside errors does not count.
-/
import DialogueStore.Remote.Exchange
import DialogueStore.Remote.Request
import DialogueStore.Config.Basic

namespace DialogueStore

/-! ### Operation documents -/

/-- An operation that the remote store knows: one field with arguments. -/
structure RemoteOperation where
  kind : String
  name : String
  field : String
  arguments : List (String × String)
  /-- What is wanted of the field's value. -/
  selection : List String

namespace RemoteOperation

/-- The document of an operation, over several lines. -/
def document (o : RemoteOperation) : String :=
  "\n" ++ o.kind ++ " " ++ o.name ++ "(\n" ++
    String.join (o.arguments.map fun a => "    $" ++ a.1 ++ ": " ++ a.2 ++ "\n") ++
    ") \x7b\n    " ++ o.field ++ "(" ++
    ", ".intercalate (o.arguments.map fun a => a.1 ++ ": $" ++ a.1) ++ ") \x7b\n" ++
    String.join (o.selection.map fun s => "        " ++ s ++ "\n") ++ "    \x7d\n\x7d\n"

def fetch : RemoteOperation where
  kind := "query"
  name := "trackerStore"
  field := "trackerStore"
  arguments :=
    [("senderId", "String!"), ("projectId", "String!"), ("after", "Int"), ("maxEvents", "Int")]
  selection := ["tracker", "lastIndex", "lastTimestamp"]

def write (name field : String) : RemoteOperation where
  kind := "mutation"
  name := name
  field := field
  arguments :=
    [("senderId", "String!"), ("projectId", "String!"), ("tracker", "Any"), ("env", "Environment")]
  selection := ["lastIndex", "lastTimestamp"]

def insert : RemoteOperation := write "insertTracker" "insertTrackerStore"

def update : RemoteOperation := write "updateTracker" "updateTrackerStore"

end RemoteOperation

namespace Call

def operation : Call → RemoteOperation
  | .fetch _ => .fetch
  | .insert _ => .insert
  | .update _ => .update

def parameters : Call → Json
  | .fetch r => r.toJson
  | .insert r => r.toJson
  | .update r => r.toJson

def body (c : Call) : Json :=
  .object [("query", .string c.operation.document), ("variables", c.parameters)]

end Call

/-! ### Answers -/

structure Answer (α : Type) where
  data : Option α := none
  /-- The messages of the errors that it names. -/
  errors : List String := []
  deriving Inhabited

namespace Answer

variable {α : Type}

def errorShape : Json.Shape String := [.defaulted "message" .text fun _ m => m]

/-- The payload of an operation: the value of its field. -/
def payload (field : String) (d : Json.Decoder α) : Json.Decoder (Option α) :=
  Json.Shape.closed [.defaulted field (.optional d) fun _ v => v] none

def shape (field : String) (d : Json.Decoder α) : Json.Shape (Answer α) :=
  [.ordinal "data" (.optional (payload field d)) fun a data => { a with data := data.join },
   .ordinal "errors" (.optional (.list (errorShape.closed ""))) fun a errors =>
     { a with errors := errors.getD [] }]

/-- Decodes the answer to an operation on a field. -/
def decode (field : String) (d : Json.Decoder α) : Json.Decoder (Answer α) :=
  (shape field d).closed {}

end Answer

/-! ### The client -/

/-- Where the remote store is, and how it is spoken to. -/
structure Client where
  url : String
  /-- The key that every request carries, as it stands. -/
  apiKey : Option String
  timeoutSecs : UInt64

namespace Client

/-- The request of a call, if it can be sent at all. -/
def post? (c : Client) (call : Call) : Option Post :=
  if isWebUrl c.url && c.apiKey.all isHeaderValue then some ⟨c.url, c.apiKey, call.body⟩ else none

/-- What the answer to an operation on a field holds. -/
def interpret {α : Type} (c : Client) (field : String) (d : Json.Decoder α) :
    Delivery → Except RemoteError (Option α)
  | .unreachable => .error (.transport "the remote store cannot be reached")
  | .lost => .error (.transport "the connection was lost")
  | .stalled => .error (.timeout c.timeoutSecs.toNat)
  | .answered status body =>
    if status < 200 ∨ 300 ≤ status then .error (.status status body.text)
    else match body with
      | .stalled => .error (.timeout c.timeoutSecs.toNat)
      | .broken => .error (.decode field)
      | .bytes content =>
        match (Json.Document.ofBytes content).decode (Answer.decode field d) with
        | .error _ => .error (.decode field)
        | .ok a => if a.errors.isEmpty then .ok a.data else .error (.graphQl a.errors)

def fetchReply (c : Client) (d : Delivery) : FetchReply :=
  c.interpret RemoteOperation.fetch.field Snapshot.decode d

/-- What a write brings; an answer without a cursor is a failure. -/
def writeReply (c : Client) (o : RemoteOperation) (d : Delivery) : WriteReply := do
  match ← c.interpret o.field RemoteCursor.decode d with
  | some cursor => return cursor
  | none => throw (.emptyResponse o.field)

def reply (c : Client) (call : Call) (d : Delivery) : Reply :=
  match call with
  | .fetch _ => .fetched (c.fetchReply d)
  | .insert _ => .written (c.writeReply .insert d)
  | .update _ => .written (c.writeReply .update d)

/-- Makes a call.  Also gives the request, if it was sent. -/
def exchange (c : Client) (network : Network) (call : Call) : Reply × Option Post :=
  match c.post? call with
  | none => (c.reply call .unreachable, none)
  | some post =>
    match network post with
    | .unreachable => (c.reply call .unreachable, none)
    | d => (c.reply call d, some post)

end Client

def Config.client (c : Config) (apiKey : Option String) : Client :=
  ⟨c.remote.url, apiKey, c.remote.timeoutSecs⟩

end DialogueStore
