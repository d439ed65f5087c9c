/-
Running an engine against a remote store whose replies are written down in
advance.

Each request takes the first reply of its queue.  A reply can be held back;
then it arrives only when it is let through, one reply for each time.  Tasks run
as far as they can, the oldest one first, whenever something has happened.
-/
import DialogueStore.Engine.Basic

namespace DialogueStore

/-- A reply, and whether it is held back. -/
structure Scripted (α : Type) where
  reply : α
  held : Bool
  deriving Inhabited

/-- An engine with its state, the replies to come, and what has happened in the current step. -/
structure Session where
  engine : Engine
  state : EngineState := {}
  fetches : List (Scripted FetchReply) := []
  writes : List (Scripted WriteReply) := []
  /-- Replies on their way to a task. -/
  pending : List (Nat × Scripted Reply) := []
  /-- How many held replies may still be let through. -/
  permits : Nat := 0
  nextTask : Nat := 0
  calls : List Call := []
  published : List (String × List Event) := []
  finished : List (Nat × Outcome) := []

namespace Session

/-- The reply to a request: nothing is stored and nothing can be written where none is left. -/
def takeReply (s : Session) : Call → Session × Scripted Reply
  | .fetch _ =>
    match s.fetches with
    | r :: rest => ({ s with fetches := rest }, ⟨.fetched r.reply, r.held⟩)
    | [] => (s, ⟨.fetched (.ok none), false⟩)
  | _ =>
    match s.writes with
    | r :: rest => ({ s with writes := rest }, ⟨.written r.reply, r.held⟩)
    | [] => (s, ⟨.written (.error (.transport "connection refused")), false⟩)

/-- Notes an effect; the reply to a request is taken at once. -/
def note (s : Session) : Effect → Session
  | .publish sender events => { s with published := s.published ++ [(sender, events)] }
  | .call id call =>
    let (s, r) := s.takeReply call
    { s with calls := s.calls ++ [call], pending := s.pending ++ [(id, r)] }
  | .done id outcome => { s with finished := s.finished ++ [(id, outcome)] }
  | .swept _ => s

def act (s : Session) (a : Action) : Session :=
  let (state, effects) := s.engine.step s.state a
  effects.foldl note { s with state }

/-- Lets a task run as far as it can. -/
def poll (s : Session) (id : Nat) : Session :=
  let s := s.act (.enter id)
  match s.pending.find? fun p => p.1 = id with
  | some (_, r) =>
    if r.held && s.permits = 0 then s
    else
      { s with
        permits := if r.held then s.permits - 1 else s.permits
        pending := s.pending.filter fun p => p.1 ≠ id }.act (.reply id r.reply)
  | none => s

/-- Lets all tasks run, the oldest first. -/
def round (s : Session) : Session := (s.state.tasks.map (·.id)).foldl poll s

/-- Lets all tasks run until nothing more happens.  A task moves twice at most, so that as many
rounds are enough. -/
def settle (s : Session) : Session :=
  (List.range (2 * s.state.tasks.length)).foldl (fun s _ => s.round) s

/-- Forgets what happened in the step before. -/
def clear (s : Session) : Session := { s with calls := [], published := [], finished := [] }

def start (s : Session) (operation : Operation) : Session × Nat :=
  let id := s.nextTask
  (({ s with nextTask := id + 1 }.act (.begin id operation)).poll id, id)

def cancel (s : Session) (id : Nat) : Session :=
  { s.act (.cancel id) with pending := s.pending.filter fun p => p.1 ≠ id }

/-- The outcome of a task that has finished in this step. -/
def outcome? (s : Session) (id : Nat) : Option Outcome :=
  (s.finished.find? fun p => p.1 = id).map (·.2)

end Session

end DialogueStore
