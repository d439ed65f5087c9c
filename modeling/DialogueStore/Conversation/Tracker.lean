/-
Trackers: the state of a conversation, rebuilt from its events.

`Tracker.ofRecord` takes a record as it is.  `Domain.replay` starts from the
domain's slots and applies the events one after another; without a domain there
is no tracker.
-/
import DialogueStore.Conversation.Cursor
import DialogueStore.Conversation.Domain

namespace DialogueStore

structure Tracker where
  senderId : String
  slots : Dict Json
  latestMessage : Option Event
  latestEventTime : Option Float
  paused : Bool
  events : List Event
  deriving Inhabited

/-- No tracker can be rebuilt because no domain is loaded. -/
structure MissingDomain where
  senderId : String
  deriving DecidableEq, Repr

def MissingDomain.message (e : MissingDomain) : String :=
  "cannot rebuild tracker '" ++ e.senderId ++ "': no domain is loaded"

namespace Tracker

/-- The state that a record states itself: slots and the paused mark are those it carries. -/
def ofRecord (r : Record) : Tracker where
  senderId := r.senderId
  slots := match Dict.get? r.extra "slots" with
    | some (.object slots) => slots
    | _ => []
  latestMessage := r.events.reverse.find? Event.isUser
  latestEventTime := r.latestTime
  paused := ((Dict.get? r.extra "paused").bind Json.bool?).getD false
  events := r.events

/-- The state before any event. -/
def start (d : Domain) (senderId : String) : Tracker :=
  ⟨senderId, d.initialSlots, none, none, false, []⟩

/-- What one event does to slots, latest message and the paused mark. -/
def apply (d : Domain) (t : Tracker) (e : Event) : Tracker :=
  match e.kind with
  | "user" => { t with latestMessage := some e }
  | "slot" =>
    match (e.field? "name").bind Json.text? with
    | some name =>
      if d.hasSlot name then
        { t with slots := t.slots.insert name ((e.field? "value").getD .null) }
      else t
    | none => t
  | "reset_slots" => { t with slots := d.initialSlots }
  | "restart" => { t with slots := d.initialSlots, latestMessage := none, paused := false }
  | "pause" => { t with paused := true }
  | "resume" => { t with paused := false }
  | _ => t

/-- Applies an event and appends it. -/
def step (d : Domain) (t : Tracker) (e : Event) : Tracker :=
  let t := t.apply d e
  { t with latestEventTime := some e.timestamp, events := t.events ++ [e] }

def toJson (t : Tracker) : Json :=
  .object [("sender_id", .string t.senderId), ("slots", .object t.slots),
    ("latest_message", Json.orNull Event.toJson t.latestMessage),
    ("latest_event_time", Json.orNull Json.float t.latestEventTime),
    ("paused", .bool t.paused), ("events", .events t.events)]

end Tracker

def Domain.replay (d : Domain) (senderId : String) (events : List Event) : Tracker :=
  events.foldl (Tracker.step d) (Tracker.start d senderId)

/-- The state after a list of events, if there is a domain to replay them against. -/
def replay (domain : Option Domain) (senderId : String) (events : List Event) :
    Except MissingDomain Tracker :=
  match domain with
  | some d => .ok (d.replay senderId events)
  | none => .error ⟨senderId⟩

end DialogueStore
