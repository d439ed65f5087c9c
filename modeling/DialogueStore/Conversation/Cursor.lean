/-
Sync cursors: how far a conversation is known to the remote store.

The remote store speaks of a cursor with values that may be missing; the
library's own cursor has the initial value in their place.
-/
import DialogueStore.Conversation.Record

namespace DialogueStore

/-- How much of a conversation was last exchanged with the remote store. -/
structure Cursor where
  /-- The index of the last event, -1 before the first exchange. -/
  lastIndex : Int
  /-- The time of the last event, 0 before the first exchange. -/
  lastTimestamp : Float
  deriving Inhabited

/-- A cursor as the remote store gives it. -/
structure RemoteCursor where
  lastIndex : Option Int := none
  lastTimestamp : Option Float := none
  deriving Inhabited

/-- What the remote store answers to a fetch: the newer part of a conversation and where it ends. -/
structure Snapshot where
  tracker : Record := {}
  lastIndex : Option Int := none
  lastTimestamp : Option Float := none
  deriving Inhabited

namespace Cursor

/-- The cursor of a conversation that was never exchanged. -/
def initial : Cursor := ⟨-1, 0⟩

def isSynced (c : Cursor) : Bool := c.lastIndex ≠ -1

end Cursor

namespace RemoteCursor

/-- A missing value is the one of the initial cursor. -/
def toCursor (c : RemoteCursor) : Cursor :=
  ⟨c.lastIndex.getD Cursor.initial.lastIndex, c.lastTimestamp.getD Cursor.initial.lastTimestamp⟩

def toJson (c : RemoteCursor) : Json :=
  .object [("lastIndex", Json.orNull Json.int c.lastIndex),
    ("lastTimestamp", Json.orNull Json.float c.lastTimestamp)]

def shape : Json.Shape RemoteCursor :=
  [.defaulted "lastIndex" (.optional .int64) fun c lastIndex => { c with lastIndex },
   .defaulted "lastTimestamp" (.optional .float) fun c lastTimestamp => { c with lastTimestamp }]

def decode : Json.Decoder RemoteCursor := shape.closed {}

end RemoteCursor

namespace Snapshot

def cursor (s : Snapshot) : Cursor := RemoteCursor.toCursor ⟨s.lastIndex, s.lastTimestamp⟩

def toJson (s : Snapshot) : Json :=
  .object [("tracker", s.tracker.toJson), ("lastIndex", Json.orNull Json.int s.lastIndex),
    ("lastTimestamp", Json.orNull Json.float s.lastTimestamp)]

def shape : Json.Shape Snapshot :=
  [.defaulted "tracker" (.optional Record.decode) fun s tracker =>
     { s with tracker := tracker.getD {} },
   .defaulted "lastIndex" (.optional .int64) fun s lastIndex => { s with lastIndex },
   .defaulted "lastTimestamp" (.optional .float) fun s lastTimestamp => { s with lastTimestamp }]

def decode : Json.Decoder Snapshot := shape.closed {}

end Snapshot

end DialogueStore
