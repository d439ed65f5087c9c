/-
One lock per sender.

A map gives each sender its mutex, and whoever wants the lock takes a handle on
that mutex first and acquires it then.  A mutex is held by one handle at most;
the others wait in the order in which they asked, and a freed mutex goes to the
first of them at once.

The map forgets senders: an entry may be removed while nobody but the remover
has a handle, and a later handle then creates a new mutex.  That is why a handle
names its mutex and not only its sender.
-/
import DialogueStore.Dict

namespace DialogueStore

/-- What a handle has of its mutex. -/
inductive Grip
  /-- Not asked for yet. -/
  | taken
  /-- In the queue. -/
  | waiting
  | held
  deriving DecidableEq, Repr, Inhabited

/-- A live handle on a mutex. -/
structure Handle where
  id : Nat
  sender : String
  mutex : Nat
  grip : Grip
  deriving DecidableEq, Repr, Inhabited

/-- The mutex of each sender, and all live handles in the order in which they asked. -/
structure Locks where
  entries : Dict Nat := []
  handles : List Handle := []
  nextMutex : Nat := 0
  nextHandle : Nat := 0
  deriving Inhabited

namespace Locks

def find? (l : Locks) (id : Nat) : Option Handle := l.handles.find? fun h => h.id = id

def holds (l : Locks) (id : Nat) : Bool := (l.find? id).any fun h => h.grip = .held

def isFree (l : Locks) (mutex : Nat) : Bool :=
  l.handles.all fun h => h.mutex ≠ mutex || h.grip ≠ .held

def handleCount (l : Locks) (mutex : Nat) : Nat := l.handles.countP fun h => h.mutex = mutex

/-- Takes a handle on the sender's mutex, which is created if the map has none. -/
def take (l : Locks) (sender : String) : Locks × Nat :=
  let id := l.nextHandle
  match l.entries.get? sender with
  | some mutex =>
    ({ l with handles := l.handles ++ [⟨id, sender, mutex, .taken⟩], nextHandle := id + 1 }, id)
  | none =>
    ({ entries := l.entries.insert sender l.nextMutex
       handles := l.handles ++ [⟨id, sender, l.nextMutex, .taken⟩]
       nextMutex := l.nextMutex + 1
       nextHandle := id + 1 }, id)

/-- Asks for the mutex of a handle that was just taken: it holds it from now on if it is free, and
waits at the end of the queue if not. -/
def acquire (l : Locks) (id : Nat) : Locks :=
  match l.find? id with
  | none => l
  | some h =>
    let grip : Grip := if l.isFree h.mutex then .held else .waiting
    { l with handles := l.handles.filter (fun h => h.id ≠ id) ++ [{ h with grip }] }

/-- The first handle in the queue of a mutex holds it. -/
def promote (mutex : Nat) : List Handle → List Handle
  | [] => []
  | h :: rest =>
    if h.mutex = mutex ∧ h.grip = .waiting then { h with grip := .held } :: rest
    else h :: promote mutex rest

/-- Gives up a handle; a mutex it held goes to the next one in the queue. -/
def drop (l : Locks) (id : Nat) : Locks :=
  match l.find? id with
  | none => l
  | some h =>
    let rest := l.handles.filter fun h => h.id ≠ id
    { l with handles := if h.grip = .held then promote h.mutex rest else rest }

/-- Takes a handle and asks for the mutex. -/
def lock (l : Locks) (sender : String) : Locks × Nat :=
  let (l, id) := l.take sender
  (l.acquire id, id)

/-- Takes the lock of a sender if nobody holds it, and leaves no handle behind otherwise. -/
def tryLock (l : Locks) (sender : String) : Locks × Option Nat :=
  let (l, id) := l.lock sender
  if l.holds id then (l, some id) else (l.drop id, none)

/-- Forgets the mutex of a sender if there is one handle on it only. -/
def forgetIfSole (l : Locks) (sender : String) : Locks :=
  match l.entries.get? sender with
  | some mutex =>
    if l.handleCount mutex = 1 then { l with entries := l.entries.erase sender } else l
  | none => l

/-- Forgets every mutex without a handle, but for the senders that are kept. -/
def prune (l : Locks) (keep : String → Bool) : Locks :=
  { l with entries := l.entries.filter fun e => 0 < l.handleCount e.2 || keep e.1 }

def size (l : Locks) : Nat := l.entries.length

end Locks

end DialogueStore
