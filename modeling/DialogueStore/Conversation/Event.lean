/-
Events of a conversation.

An event has a kind and a time; everything else it says is carried along as it
came.  The text a user wrote stands in two places, `text` and
`parse_data.text`, and `Event.rewriteText` reaches both.
-/
import DialogueStore.Json.Decode

namespace DialogueStore

structure Event where
  /-- What happened: "user", "bot", "slot", "action" and so on. -/
  kind : String
  /-- Seconds since the epoch. -/
  timestamp : Float
  /-- All other members, in key order. -/
  fields : Dict Json
  deriving Inhabited

namespace Json

/-- Applies a function to a text, and leaves any other value alone. -/
def mapText (f : String → String) : Json → Json
  | .string s => .string (f s)
  | v => v

/-- Applies a function to one member of an object, if it is there. -/
def adjust (key : String) (f : Json → Json) : Json → Json
  | .object members => .object (Dict.adjust members key f)
  | v => v

end Json

namespace Event

/-- Events of this kind are written by the user. -/
def userKind : String := "user"

def isUser (e : Event) : Bool := e.kind = userKind

def field? (e : Event) (key : String) : Option Json := Dict.get? e.fields key

/-- The text of the message, if the event carries one. -/
def text? (e : Event) : Option String := (e.field? "text").bind Json.text?

/-- Rewrites the texts of an event, `text` and `parse_data.text`; anything else at these places,
or nothing, is left alone. -/
def rewriteText (f : String → String) (e : Event) : Event :=
  { e with
    fields := (e.fields.adjust "text" (Json.mapText f)).adjust "parse_data"
      (Json.adjust "text" (Json.mapText f)) }

/-- Same kind, same time as a number, same members. -/
def beq (a b : Event) : Bool :=
  a.kind == b.kind && a.timestamp == b.timestamp && Json.beqMembers a.fields b.fields

instance : BEq Event := ⟨beq⟩

def toJson (e : Event) : Json :=
  .object (("event", .string e.kind) :: ("timestamp", .float e.timestamp) :: e.fields)

def shape : Json.Shape Event :=
  [.required "event" .text fun e kind => { e with kind },
   .required "timestamp" .float fun e timestamp => { e with timestamp }]

def decode : Json.Decoder Event :=
  shape.open ⟨"", 0, []⟩ fun e key v => { e with fields := e.fields.insert key v }

end Event

def Json.events (es : List Event) : Json := .array (es.map Event.toJson)

end DialogueStore
