/-
How results are shown on the command line, as text for people or as JSON.
-/
import DialogueStore.Calendar
import DialogueStore.Config.Load
import DialogueStore.Config.Printer
import DialogueStore.Conversation.Tracker
import DialogueStore.Decimal.Layout
import DialogueStore.Json.Printer
import DialogueStore.Service

namespace DialogueStore

namespace CommandLine

def unlines (lines : List String) : String := String.join (lines.map (· ++ "\n"))

def jsonText (v : Json) : String := v.pretty ++ "\n"

/-- A time in seconds as a date with its clock time, or as a number if there is no such date. -/
def timeText (seconds : Float) : String :=
  (Calendar.momentText? (seconds * 1000).toInt64.toInt).getD (Decimal.plainLayout.write seconds)

/-- How many events there are, and when the latest one was. -/
def summary (events : List Event) (latest : Option Float) : List String :=
  ("  Events:   " ++ toString events.length) ::
    (latest.map fun t => "  Latest:   " ++ timeText t).toList

def trackerText (t : Tracker) : String :=
  let message := (t.latestMessage.bind Event.text?).map fun text => "  Message:  " ++ text
  let slots := t.slots.map fun s => "  " ++ s.1 ++ ": " ++ s.2.compact
  unlines (["", "  ● Tracker '" ++ t.senderId ++ "'", ""] ++ summary t.events t.latestEventTime ++
    (if t.paused then ["  Status:   paused"] else []) ++ message.toList ++
    (if slots.isEmpty then [] else ["", "  ── Slots ──"] ++ slots) ++ [""])

/-- The width of the column of the kinds of events. -/
def kindWidth : Nat := 10

/-- An event on a line: its kind, and its text in a column of its own. -/
def eventLine (e : Event) : String :=
  match e.text? with
  | some text =>
    "  " ++ e.kind ++ String.ofList (List.replicate (kindWidth - e.kind.length) ' ') ++ " " ++ text
  | none => "  " ++ e.kind

def recordText (r : Record) : String :=
  unlines (["", "  ● Conversation '" ++ r.senderId ++ "'", ""] ++
    summary r.events r.latestEventTime ++ [""] ++ r.events.map eventLine ++ [""])

def notFoundText (senderId : String) : String :=
  unlines ["  ✗ No tracker found for '" ++ senderId ++ "'"]

/-- What storing a conversation came to. -/
structure Saved where
  senderId : String
  events : List Event
  isTest : Bool
  cursor : Cursor

namespace Saved

def toJson (s : Saved) : Json :=
  (Json.object [("sender_id", .string s.senderId), ("events", .events s.events),
    ("test_sender", .bool s.isTest),
    ("cursor", .object [("last_index", .int s.cursor.lastIndex),
      ("last_timestamp", .float s.cursor.lastTimestamp)])]).sortKeys

def toText (s : Saved) : String :=
  let remote :=
    if s.isTest then "  Test conversation, kept local only"
    else if s.cursor.isSynced then
      "  Remote index: " ++ toString s.cursor.lastIndex ++ "  last timestamp: " ++
        Decimal.plainLayout.write s.cursor.lastTimestamp
    else "  ! Remote store did not acknowledge the write"
  unlines ["", "  ✓ Saved " ++ toString s.events.length ++ " events for '" ++ s.senderId ++ "'",
    remote, ""]

end Saved

/-- The configuration of a file and the environment, and whether there is a key. -/
structure Effective where
  path : String
  config : Config
  hasKey : Bool

namespace Effective

/-- Why the configuration cannot be used. -/
def flaw? (e : Effective) : Option String :=
  match e.config.validate with
  | .ok _ => none
  | .error error => some error.message

def toJson (e : Effective) : Json :=
  (Json.object [("path", .string e.path), ("config", e.config.toJson),
    ("api_key_set", .bool e.hasKey), ("valid", .bool e.flaw?.isNone),
    ("error", Json.orNull .string e.flaw?)]).sortKeys

def heading (e : Effective) : String :=
  unlines ["", "  ⚡ tracksync v" ++ version, "  " ++ e.path, ""]

def verdict (e : Effective) : String :=
  unlines ["", "  " ++ Environment.apiKey ++ ": " ++ (if e.hasKey then "set" else "unset"),
    match e.flaw? with
    | none => "  ✓ Configuration is valid"
    | some message => "  ✗ " ++ message,
    ""]

end Effective

/-- What is shown while requests are answered at an address. -/
def listeningText (address remoteUrl : String) : String :=
  unlines ["  ⚡ tracksync listening on http://" ++ address, "  Remote store: " ++ remoteUrl,
    "  Press Ctrl+C to stop"]

def stoppedText : String := unlines ["", "  Server stopped."]

end CommandLine

end DialogueStore
