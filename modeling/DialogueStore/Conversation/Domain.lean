/-
Domains: which slots a conversation has, and what they hold at its start.
-/
import DialogueStore.Json.Decode

namespace DialogueStore

structure Slot where
  type : Option String := none
  /-- What the slot holds before an event sets it. -/
  initialValue : Json := .null
  deriving Inhabited

/-- The slots of a conversation, by name. -/
structure Domain where
  slots : Dict Slot := []
  deriving Inhabited

namespace Slot

def toJson (s : Slot) : Json :=
  .object [("type", Json.orNull .string s.type), ("initial_value", s.initialValue)]

def shape : Json.Shape Slot :=
  [.defaulted "type" (.optional .text) fun s type => { s with type },
   .defaulted "initial_value" .verbatim fun s initialValue => { s with initialValue }]

def decode : Json.Decoder Slot := shape.closed {}

end Slot

namespace Domain

/-- What the slots of a fresh conversation hold. -/
def initialSlots (d : Domain) : Dict Json := d.slots.mapValues (·.initialValue)

def hasSlot (d : Domain) (name : String) : Bool := Dict.contains d.slots name

def toJson (d : Domain) : Json := .object [("slots", .object (d.slots.mapValues Slot.toJson))]

def shape : Json.Shape Domain :=
  [.defaulted "slots" (.dict Slot.decode) fun d slots => { d with slots }]

def decode : Json.Decoder Domain := shape.closed {}

end Domain

end DialogueStore
