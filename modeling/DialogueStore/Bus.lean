/-
The event bus: everybody who listens gets the events of every save.

The bus keeps as many events as its capacity allows, which is a power of two.
A listener who falls behind is told how many events it missed and goes on with
the oldest one that is kept.  What is published while nobody listens is lost.
-/
import DialogueStore.Conversation.Event

namespace DialogueStore

structure TrackerEvent where
  senderId : String
  event : Event
  deriving Inhabited

def TrackerEvent.toJson (e : TrackerEvent) : Json :=
  .object [("sender_id", .string e.senderId), ("event", e.event.toJson)]

structure Bus where
  capacity : Nat
  /-- How many events were published so far. -/
  total : Nat := 0
  /-- The latest events, the oldest first. -/
  kept : List TrackerEvent := []
  /-- For each listener the number of the event it gets next. -/
  listeners : Dict Nat := []
  isOpen : Bool := true
  deriving Inhabited

/-- What a listener gets when it asks for the next event. -/
inductive Received
  | event (e : TrackerEvent)
  | nothingYet
  | closed
  /-- So many events are gone. -/
  | lagged (missed : Nat)
  deriving Inhabited

namespace Bus

/-- A bus with room for so many events at least.  There is none for no event, and none for more
than half of what 64 bits count. -/
def ofCapacity? (n : Nat) : Option Bus :=
  if n = 0 ∨ 0x8000000000000000 ≤ n then none else some { capacity := n.nextPowerOfTwo }

def listenerCount (b : Bus) : Nat := b.listeners.length

/-- A new listener gets all events from now on. -/
def subscribe (b : Bus) (name : String) : Bus :=
  { b with listeners := b.listeners.insert name b.total }

def unsubscribe (b : Bus) (name : String) : Bus :=
  { b with listeners := b.listeners.erase name }

def publishOne (sender : String) (b : Bus) (e : Event) : Bus :=
  let kept := b.kept ++ [⟨sender, e⟩]
  { b with total := b.total + 1, kept := kept.drop (kept.length - b.capacity) }

/-- Publishes events in their order; without a listener they are lost. -/
def publish (b : Bus) (sender : String) (events : List Event) : Bus :=
  if b.listeners.isEmpty then b else events.foldl (publishOne sender) b

def close (b : Bus) : Bus := { b with isOpen := false }

/-- The next event of a listener; none if nobody listens under this name. -/
def receive (b : Bus) (name : String) : Option (Bus × Received) := do
  let next ← b.listeners.get? name
  let oldest := b.total - b.kept.length
  if next < oldest then
    return ({ b with listeners := b.listeners.insert name oldest }, .lagged (oldest - next))
  match b.kept[next - oldest]? with
  | some e => return ({ b with listeners := b.listeners.insert name (next + 1) }, .event e)
  | none => return (b, if b.isOpen then .nothingYet else .closed)

def describe (b : Bus) : String :=
  "TrackerEventBus \x7b receiver_count: " ++ toString b.listenerCount ++ " \x7d"

end Bus

end DialogueStore
