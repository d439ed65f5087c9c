/-
Merging a fetched record into the cached one.

A fetch brings the events after the cursor, and at most a given number of them.
An answer of exactly that number may have been cut off in front, so the
cached events need not join it and are dropped; any shorter answer continues
them.  Of all other members the fetched one counts, where it is there.
-/
import DialogueStore.Conversation.Record

namespace DialogueStore

/-- Whether an answer of so many events may have been cut off. -/
def isWindowed (eventCount maxEvents : Nat) : Bool := eventCount == maxEvents

/-- The cached record of a sender after a fetch. -/
def Record.merge (senderId : String) (local? : Option Record) (remote : Record)
    (maxEvents : Nat) : Record :=
  match local? with
  | none => if remote.senderId.isEmpty then { remote with senderId } else remote
  | some cached =>
    { senderId := if remote.senderId.isEmpty then cached.senderId else remote.senderId
      events :=
        if isWindowed remote.events.length maxEvents then remote.events
        else cached.events ++ remote.events
      latestEventTime := remote.latestEventTime.or cached.latestEventTime
      latestMessage := remote.latestMessage.or cached.latestMessage
      extra := Dict.union cached.extra remote.extra }

end DialogueStore
