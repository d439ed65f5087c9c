/-
The sync engine: saving and retrieving conversations through the cache and the
remote store.

An operation is a task.  It asks for its sender's lock, and once it holds it,
it runs up to its request to the remote store; the reply ends it.  Tasks on one
sender therefore never overlap, and tasks on different senders do not wait for
each other.  `Engine.step` is the whole of it, one action at a time: what a run
is made of is a list of actions, and what happened in it is the list of effects.

No failure of the remote store reaches the caller.  A failed write keeps the
record cached with its old cursor, and a failed fetch serves the cached copy.
-/
import DialogueStore.Cache.Sweep
import DialogueStore.Conversation.Anonymize
import DialogueStore.Conversation.Merge
import DialogueStore.Conversation.Tracker
import DialogueStore.Remote.Request

namespace DialogueStore

/-- What stays the same while an engine runs. -/
structure Engine where
  config : Config
  /-- Whether a sender is a test sender, whose conversations stay local. -/
  isTest : String → Bool
  anonymize : String → String
  /-- Whether somebody listens to what is saved. -/
  broadcasts : Bool
  domain : Option Domain

inductive Operation
  | save (r : Record)
  | retrieve (sender : String)
  deriving Inhabited

inductive Outcome
  /-- The events as they were stored. -/
  | saved (events : List Event)
  /-- The record of the sender, if anybody knows one. -/
  | retrieved (r : Option Record)
  deriving Inhabited

inductive Stage
  | queued
  | calling (call : Call)
  deriving Inhabited

/-- An operation under way.  A record to be saved is anonymized already. -/
structure Task where
  id : Nat
  operation : Operation
  handle : Nat
  stage : Stage
  deriving Inhabited

structure EngineState where
  cache : Cache := {}
  tasks : List Task := []
  deriving Inhabited

inductive Action
  /-- A new task asks for its sender's lock. -/
  | begin (id : Nat) (operation : Operation)
  /-- A task that holds the lock runs up to its request. -/
  | enter (id : Nat)
  | reply (id : Nat) (r : Reply)
  /-- A task is dropped where it waits. -/
  | cancel (id : Nat)
  | sweep (now : Float)

/-- What others see of an action. -/
inductive Effect
  | publish (sender : String) (events : List Event)
  | call (id : Nat) (call : Call)
  | done (id : Nat) (outcome : Outcome)
  | swept (report : SweepReport)

namespace Operation

/-- The sender whose lock the operation needs. -/
def sender : Operation → String
  | .save r => r.senderId
  | .retrieve sender => sender

/-- A record is anonymized before anything else is done with it. -/
def anonymize (f : String → String) : Operation → Operation
  | .save r => .save (r.anonymize f)
  | op => op

end Operation

namespace EngineState

def task? (s : EngineState) (id : Nat) : Option Task := s.tasks.find? fun t => t.id = id

def removeTask (s : EngineState) (id : Nat) : EngineState :=
  { s with tasks := s.tasks.filter fun t => t.id ≠ id }

def setStage (s : EngineState) (id : Nat) (stage : Stage) : EngineState :=
  { s with tasks := s.tasks.map fun t => if t.id = id then { t with stage } else t }

end EngineState

namespace Engine

def writeRequest (e : Engine) (sender : String) (tracker : Record) : WriteRequest :=
  ⟨sender, e.config.projectId, tracker, e.config.environment⟩

def fetchRequest (e : Engine) (sender : String) (cursor : Cursor) : FetchRequest :=
  ⟨sender, e.config.projectId, cursor.lastIndex, e.config.maxEvents.toNat⟩

/-- The write of a record: all of it the first time, and afterwards the part after the cursor. -/
def writeCall (e : Engine) (c : Cache) (r : Record) : Call :=
  if c.contains .normal r.senderId then
    .update (e.writeRequest r.senderId
      (r.withEvents (r.eventsAfter (c.cursor r.senderId).lastTimestamp)))
  else .insert (e.writeRequest r.senderId r)

/-- A save once it holds the lock. -/
def enterSave (e : Engine) (s : EngineState) (t : Task) (r : Record) :
    EngineState × List Effect :=
  if e.isTest r.senderId then
    let cache := (s.cache.put .test r.senderId r).unlock t.handle
    ({ s.removeTask t.id with cache }, [.done t.id (.saved r.events)])
  else
    let call := e.writeCall s.cache r
    let published := if e.broadcasts then [Effect.publish r.senderId r.events] else []
    (s.setStage t.id (.calling call), published ++ [.call t.id call])

/-- A retrieve once it holds the lock. -/
def enterRetrieve (e : Engine) (s : EngineState) (t : Task) (sender : String) :
    EngineState × List Effect :=
  if e.isTest sender then
    ({ s.removeTask t.id with cache := s.cache.release sender t.handle },
      [.done t.id (.retrieved (s.cache.get? .test sender))])
  else
    let call := Call.fetch (e.fetchRequest sender (s.cache.cursor sender))
    (s.setStage t.id (.calling call), [.call t.id call])

/-- A save after its write. -/
def finishSave (s : EngineState) (t : Task) (r : Record) (reply : WriteReply) :
    EngineState × List Effect :=
  let cache := match reply with
    | .ok cursor => s.cache.setCursor r.senderId cursor.toCursor
    | .error _ => s.cache
  let cache := (cache.put .normal r.senderId r).unlock t.handle
  ({ s.removeTask t.id with cache }, [.done t.id (.saved r.events)])

/-- What a fetch leaves in the cache, and the record that it answers. -/
def absorb (e : Engine) (c : Cache) (sender : String) (reply : FetchReply) :
    Cache × Option Record :=
  match reply with
  | .ok (some snapshot) =>
    let merged := Record.merge sender (c.get? .normal sender) snapshot.tracker
      e.config.maxEvents.toNat
    ((c.setCursor sender snapshot.cursor).put .normal sender merged, some merged)
  | _ => (c, c.get? .normal sender)

/-- A retrieve after its fetch. -/
def finishRetrieve (e : Engine) (s : EngineState) (t : Task) (sender : String)
    (reply : FetchReply) : EngineState × List Effect :=
  let (cache, record) := e.absorb s.cache sender reply
  ({ s.removeTask t.id with cache := cache.release sender t.handle },
    [.done t.id (.retrieved record)])

/-- One action.  An action that the state has no place for changes nothing. -/
def step (e : Engine) (s : EngineState) : Action → EngineState × List Effect
  | .begin id operation =>
    if (s.task? id).isSome then (s, [])
    else
      -- Texts are anonymized before the lock is asked for.
      let operation := operation.anonymize e.anonymize
      let (cache, handle) := s.cache.lock operation.sender
      ({ cache, tasks := s.tasks ++ [⟨id, operation, handle, .queued⟩] }, [])
  | .enter id =>
    match s.task? id with
    | some t =>
      match t.stage with
      | .queued =>
        -- In the queue the task waits until those before it are done.
        if s.cache.locks.holds t.handle then
          match t.operation with
          | .save r => e.enterSave s t r
          | .retrieve sender => e.enterRetrieve s t sender
        else (s, [])
      | .calling _ => (s, [])
    | none => (s, [])
  | .reply id reply =>
    match s.task? id with
    | some t =>
      match t.stage, t.operation, reply with
      | .calling _, .save r, .written reply => finishSave s t r reply
      | .calling _, .retrieve sender, .fetched reply => e.finishRetrieve s t sender reply
      | _, _, _ => (s, [])
    | none => (s, [])
  | .cancel id =>
    match s.task? id with
    | some t => ({ s.removeTask id with cache := s.cache.unlock t.handle }, [])
    | none => (s, [])
  | .sweep now =>
    let (cache, report) := s.cache.sweepAt e.config.retention now
    ({ s with cache }, [.swept report])

/-- A list of actions, and all effects in their order. -/
def run (e : Engine) (s : EngineState) : List Action → EngineState × List Effect
  | [] => (s, [])
  | a :: rest =>
    let (s, effects) := e.step s a
    let (s, more) := e.run s rest
    (s, effects ++ more)

/-- The tracker of a retrieved record: a test conversation is taken as it is, any other one is
rebuilt from its events. -/
def tracker? (e : Engine) (sender : String) (record : Option Record) : Option Tracker := do
  let r ← record
  if e.isTest sender then some (.ofRecord r) else (replay e.domain sender r.events).toOption

end Engine

end DialogueStore
