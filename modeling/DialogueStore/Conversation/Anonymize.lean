/-
Anonymizing records: a transform of text applied to all text a user wrote, and
to nothing else.
-/
import DialogueStore.Conversation.Record

namespace DialogueStore

def LatestMessage.mapText (f : String → String) (m : LatestMessage) : LatestMessage :=
  { m with text := m.text.map f }

/-- An event with its texts rewritten if the user wrote it. -/
def Event.anonymize (f : String → String) (e : Event) : Event :=
  if e.isUser then e.rewriteText f else e

/-- A record with all text of the user rewritten. -/
def Record.anonymize (f : String → String) (r : Record) : Record :=
  { r with
    events := r.events.map (Event.anonymize f)
    latestMessage := r.latestMessage.map (LatestMessage.mapText f) }

end DialogueStore
