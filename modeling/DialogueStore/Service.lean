/-
The service: an engine with its state, the client through which it reaches the
remote store, and the bus on which it publishes.
-/
import DialogueStore.Bus
import DialogueStore.Engine.Create
import DialogueStore.Engine.Perform
import DialogueStore.Privacy.Rules
import DialogueStore.Remote.GraphQl

namespace DialogueStore

def version : String := "0.1.0"

structure Service where
  engine : Engine
  client : Client
  bus : Bus
  state : EngineState := {}

/-- What comes of an operation: the service afterwards, a result, and the requests that were sent
to the remote store. -/
structure Performed (α : Type) where
  service : Service
  result : α
  sent : List Post := []

def Performed.map {α β : Type} (f : α → β) (p : Performed α) : Performed β :=
  { service := p.service, result := f p.result, sent := p.sent }

namespace Service

/-- How many events the bus keeps. -/
def busCapacity : Nat := 256

/-- A service of a valid configuration.  User texts are anonymized, and all that is saved is
published. -/
def ofConfig (config : Config) (client : Client) (domain : Option Domain) :
    Except ConfigError Service := do
  let engine ← Engine.ofConfig config Privacy.anonymizeText true domain
  return { engine, client, bus := { capacity := busCapacity } }

/-- The service with somebody who listens to what is published. -/
def withEventLog (s : Service) : Service := { s with bus := s.bus.subscribe "log" }

def publish (b : Bus) : Effect → Bus
  | .publish sender events => b.publish sender events
  | _ => b

/-- Performs an operation as far as it can run now.  If its sender's lock is taken, it becomes a
task in the queue and its outcome is still to come. -/
def perform (s : Service) (network : Network) (operation : Operation) :
    Performed (Awaited Outcome) :=
  let answer (call : Call) := s.client.exchange network call
  let (state, effects) := s.engine.perform s.state (fun call => (answer call).1) operation
  { service := { s with state, bus := effects.foldl publish s.bus }
    result := match effects.findSome? Effect.outcome? with
      | some outcome => .now outcome
      | none => .later s.state.nextId id
    sent := (effects.filterMap Effect.call?).filterMap fun call => (answer call).2 }

def retrieveRecord (s : Service) (network : Network) (sender : String) :
    Performed (Awaited (Option Record)) :=
  (s.perform network (.retrieve sender)).map (.map Outcome.record?)

/-- The conversation of a sender, after a look at the remote store. -/
def retrieve (s : Service) (network : Network) (sender : String) :
    Performed (Awaited (Option Tracker)) :=
  (s.retrieveRecord network sender).map (.map (s.engine.tracker? sender))

def save (s : Service) (network : Network) (r : Record) : Performed (Awaited (List Event)) :=
  (s.perform network (.save r)).map (.map Outcome.events)

/-- Drops what is too old at a time. -/
def sweep (s : Service) (now : Float) : Performed SweepReport :=
  let (cache, report) := s.state.cache.sweepAt s.engine.config.retention now
  { service := { s with state := { s.state with cache } }, result := report }

end Service

end DialogueStore
