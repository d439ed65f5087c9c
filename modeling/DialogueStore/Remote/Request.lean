/-
What the store asks of the remote store, what can come back, and how a request
can fail.
-/
import DialogueStore.Conversation.Cursor

namespace DialogueStore

inductive RemoteError
  | transport (message : String)
  /-- An answer whose status is no success. -/
  | status (code : Nat) (body : String)
  | graphQl (messages : List String)
  /-- No answer within so many seconds. -/
  | timeout (secs : Nat)
  | decode (message : String)
  /-- A write was answered without a cursor. -/
  | emptyResponse (operation : String)
  deriving DecidableEq, Repr, Inhabited

namespace RemoteError

def message : RemoteError → String
  | .transport m => "transport error: " ++ m
  | .status code body => "remote returned HTTP " ++ toString code ++ ": " ++ body
  | .graphQl messages => "graphql error: " ++ ", ".intercalate messages
  | .timeout secs => "request timed out after " ++ toString secs ++ "s"
  | .decode m => "failed to decode response: " ++ m
  | .emptyResponse operation => "remote returned no data for '" ++ operation ++ "'"

def messages : RemoteError → List String
  | .graphQl messages => messages
  | e => [e.message]

end RemoteError

/-- Asks for the events of a conversation after an index, -1 for all. -/
structure FetchRequest where
  senderId : String
  projectId : String
  after : Int
  maxEvents : Nat
  deriving DecidableEq, Repr, Inhabited

def FetchRequest.toJson (r : FetchRequest) : Json :=
  .object [("senderId", .string r.senderId), ("projectId", .string r.projectId),
    ("after", .int r.after), ("maxEvents", .nat r.maxEvents)]

/-- Hands a conversation, or the newer part of one, to the remote store. -/
structure WriteRequest where
  senderId : String
  projectId : String
  tracker : Record
  env : String
  deriving Inhabited

def WriteRequest.toJson (r : WriteRequest) : Json :=
  .object [("senderId", .string r.senderId), ("projectId", .string r.projectId),
    ("tracker", r.tracker.toJson), ("env", .string r.env)]

inductive Call
  | fetch (r : FetchRequest)
  /-- Stores a conversation that the remote store has not seen. -/
  | insert (r : WriteRequest)
  /-- Appends the events of a part of a conversation. -/
  | update (r : WriteRequest)
  deriving Inhabited

/-- What comes back for a fetch: a snapshot, or nothing for this sender. -/
abbrev FetchReply := Except RemoteError (Option Snapshot)

/-- What comes back for a write: how far the conversation is stored now. -/
abbrev WriteReply := Except RemoteError RemoteCursor

inductive Reply
  | fetched (r : FetchReply)
  | written (r : WriteReply)
  deriving Inhabited

end DialogueStore
