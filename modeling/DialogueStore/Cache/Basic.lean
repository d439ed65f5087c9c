/-
The local cache: records, test records and cursors by sender, and a lock for
each sender.

Whoever reads and then writes what belongs to a sender holds the sender's lock
meanwhile.  `release` and `evict` give a lock back and let go of the sender's
entry in the lock map if nobody else has a handle on it.
-/
import DialogueStore.Cache.Locks
import DialogueStore.Conversation.Cursor

namespace DialogueStore

/-- The two kinds of cached conversations. -/
inductive Partition
  /-- Exchanged with the remote store. -/
  | normal
  /-- Test conversations, which stay local. -/
  | test
  deriving DecidableEq, Repr, Inhabited

structure CacheStats where
  records : Nat
  testRecords : Nat
  cursors : Nat
  deriving DecidableEq, Repr

structure Cache where
  normal : Dict Record := []
  test : Dict Record := []
  cursors : Dict Cursor := []
  locks : Locks := {}
  deriving Inhabited

namespace Cache

def records (c : Cache) : Partition → Dict Record
  | .normal => c.normal
  | .test => c.test

def setRecords (c : Cache) (p : Partition) (d : Dict Record) : Cache :=
  match p with
  | .normal => { c with normal := d }
  | .test => { c with test := d }

def get? (c : Cache) (p : Partition) (sender : String) : Option Record :=
  (c.records p).get? sender

def contains (c : Cache) (p : Partition) (sender : String) : Bool :=
  (c.records p).contains sender

def put (c : Cache) (p : Partition) (sender : String) (r : Record) : Cache :=
  c.setRecords p ((c.records p).insert sender r)

/-- The cursor of a sender, the initial one if there is none. -/
def cursor (c : Cache) (sender : String) : Cursor := (c.cursors.get? sender).getD .initial

def setCursor (c : Cache) (sender : String) (cursor : Cursor) : Cache :=
  { c with cursors := c.cursors.insert sender cursor }

/-- Whether anything is cached for a sender. -/
def hasEntries (c : Cache) (sender : String) : Bool :=
  c.normal.contains sender || c.test.contains sender || c.cursors.contains sender

/-- Takes the lock of a sender or a place in its queue. -/
def lock (c : Cache) (sender : String) : Cache × Nat :=
  let (locks, id) := c.locks.lock sender
  ({ c with locks }, id)

/-- Takes the lock of a sender only if nobody holds it. -/
def tryLock (c : Cache) (sender : String) : Cache × Option Nat :=
  let (locks, id) := c.locks.tryLock sender
  ({ c with locks }, id)

def unlock (c : Cache) (id : Nat) : Cache := { c with locks := c.locks.drop id }

/-- Gives up a handle on the sender's lock, and with it the lock's entry if nothing is cached for
the sender and nobody else has a handle. -/
def release (c : Cache) (sender : String) (id : Nat) : Cache :=
  let locks := if c.hasEntries sender then c.locks else c.locks.forgetIfSole sender
  { c with locks := locks.drop id }

/-- Drops the record and cursor of a sender whose lock is held, and whether there was a record. -/
def evict (c : Cache) (p : Partition) (sender : String) (id : Nat) : Cache × Bool :=
  let removed := c.contains p sender
  let c := c.setRecords p ((c.records p).erase sender)
  ({ c with
     cursors := c.cursors.erase sender
     locks := (c.locks.forgetIfSole sender).drop id }, removed)

/-- Forgets the idle locks of senders with nothing cached, and counts them. -/
def prune (c : Cache) : Cache × Nat :=
  let locks := c.locks.prune c.hasEntries
  ({ c with locks }, c.locks.size - locks.size)

def stats (c : Cache) : CacheStats := ⟨c.normal.length, c.test.length, c.cursors.length⟩

end Cache

end DialogueStore
