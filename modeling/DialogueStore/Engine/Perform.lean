/-
One operation, run as far as it can while nothing else goes on.

If the lock of its sender is free, the operation runs to its end, with the reply
to its request at hand.  If a task holds the lock, the operation stays in the
queue as a task of its own, and nothing has come of it yet: what it does later
are further steps of the engine, and the caller waits for its outcome.
-/
import DialogueStore.Engine.Basic

namespace DialogueStore

def Effect.call? : Effect → Option Call
  | .call _ c => some c
  | _ => none

def Effect.outcome? : Effect → Option Outcome
  | .done _ outcome => some outcome
  | _ => none

def Outcome.events : Outcome → List Event
  | .saved events => events
  | .retrieved _ => []

def Outcome.record? : Outcome → Option Record
  | .saved _ => none
  | .retrieved r => r

/-- What a caller gets: a value at once, or one that is made of the outcome of a task as soon as
that task is done. -/
inductive Awaited (α : Type)
  | now (a : α)
  | later (id : Nat) (finish : Outcome → α)

namespace Awaited

variable {α β : Type}

def map (f : α → β) : Awaited α → Awaited β
  | .now a => .now (f a)
  | .later id finish => .later id fun outcome => f (finish outcome)

/-- The value, or what is shown in its place as long as there is none. -/
def getD : Awaited α → α → α
  | .now a, _ => a
  | .later _ _, waiting => waiting

end Awaited

/-- An id that no task has. -/
def EngineState.nextId (s : EngineState) : Nat := (s.tasks.map (·.id)).foldl max 0 + 1

namespace Engine

/-- Runs an operation under the next id; `answer` gives the reply to its request.  There is an
outcome among the effects unless the operation is left waiting for its lock. -/
def perform (e : Engine) (s : EngineState) (answer : Call → Reply) (operation : Operation) :
    EngineState × List Effect :=
  let id := s.nextId
  let (s, first) := e.run s [.begin id operation, .enter id]
  match first.findSome? Effect.call? with
  | some call =>
    let (s, second) := e.run s [.reply id (answer call)]
    (s, first ++ second)
  | none => (s, first)

end Engine

end DialogueStore
