/-
Conversation records: one conversation as it is cached and exchanged with the
remote store.

A record interprets its sender, its events, the time of the latest event and
the latest message.  All other members are carried along as they came.
-/
import DialogueStore.Conversation.Event
import DialogueStore.Decimal.Layout

namespace DialogueStore

structure LatestMessage where
  text : Option String
  /-- All other members, in key order. -/
  fields : Dict Json
  deriving Inhabited

/-- The stored form of one conversation. -/
structure Record where
  /-- The key of the conversation; the remote store may leave it out. -/
  senderId : String := ""
  events : List Event := []
  latestEventTime : Option Float := none
  latestMessage : Option LatestMessage := none
  /-- All other members, in key order. -/
  extra : Dict Json := []
  deriving Inhabited

/-- The age of a record cannot be told. -/
structure InvalidTimestamp where
  senderId : String
  value : Float

def InvalidTimestamp.message (e : InvalidTimestamp) : String :=
  "tracker '" ++ e.senderId ++ "' has an invalid latest event time: " ++
    Decimal.plainLayout.write e.value

namespace LatestMessage

def toJson (m : LatestMessage) : Json :=
  .object (("text", Json.orNull .string m.text) :: m.fields)

def shape : Json.Shape LatestMessage :=
  [.defaulted "text" (.optional .text) fun m text => { m with text }]

def decode : Json.Decoder LatestMessage :=
  shape.open ⟨none, []⟩ fun m key v => { m with fields := m.fields.insert key v }

end LatestMessage

namespace Record

/-- A record of these events, as recent as the last of them. -/
def ofEvents (senderId : String) (events : List Event) : Record :=
  { senderId, events, latestEventTime := events.getLast?.map (·.timestamp) }

/-- The record with another list of events; nothing else changes. -/
def withEvents (r : Record) (events : List Event) : Record := { r with events }

/-- The events strictly later than a time. -/
def eventsAfter (r : Record) (time : Float) : List Event :=
  r.events.filter fun e => time < e.timestamp

/-- The stated time of the latest event, or else the time of the last event. -/
def latestTime (r : Record) : Option Float :=
  r.latestEventTime.or (r.events.getLast?.map (·.timestamp))

/-- When the conversation was last active.  None means that nobody knows, and such a record counts
as fresh. -/
def freshness (r : Record) : Except InvalidTimestamp (Option Float) :=
  match r.latestTime with
  | some t => if t.isFinite then .ok (some t) else .error ⟨r.senderId, t⟩
  | none => .ok none

def toJson (r : Record) : Json :=
  .object (("sender_id", .string r.senderId) :: ("events", .events r.events) ::
    ((match r.latestEventTime with
      | some t => [("latest_event_time", Json.float t)]
      | none => []) ++
     (match r.latestMessage with
      | some m => [("latest_message", m.toJson)]
      | none => []) ++ r.extra))

def shape : Json.Shape Record :=
  [.defaulted "sender_id" .text fun r senderId => { r with senderId },
   .defaulted "events" (.list Event.decode) fun r events => { r with events },
   .defaulted "latest_event_time" (.optional .float) fun r latestEventTime =>
     { r with latestEventTime },
   .defaulted "latest_message" (.optional LatestMessage.decode) fun r latestMessage =>
     { r with latestMessage }]

def decode : Json.Decoder Record :=
  shape.open {} fun r key v => { r with extra := r.extra.insert key v }

end Record

end DialogueStore
