/-
What a cache holds for one sender.

The maps of a cache hold everybody's conversations, and whatever is done to the
cache is done for one sender at a time.  `Cache.entry` is the cache as one
sender sees it, and the lemmas here say of each operation what it does to the
entry of its own sender and that it leaves all others alone.  The locks are seen
apart from that; `release_coherent` and the `_locks` lemmas say what becomes of
them.
-/
import DialogueStore.Cache.Basic
import DialogueStore.Proofs.Locks

namespace DialogueStore

/-- What is cached for a sender. -/
structure Entry where
  normal : Option Record := none
  test : Option Record := none
  cursor : Option Cursor := none

namespace Entry

/-- The record in a partition. -/
def record (x : Entry) : Partition → Option Record
  | .normal => x.normal
  | .test => x.test

def setRecord (x : Entry) (p : Partition) (r : Option Record) : Entry :=
  match p with
  | .normal => { x with normal := r }
  | .test => { x with test := r }

/-- The cursor, the initial one if there is none. -/
def lastCursor (x : Entry) : Cursor := x.cursor.getD .initial

/-- Nothing is cached. -/
def isEmpty (x : Entry) : Bool := x.normal.isNone && x.test.isNone && x.cursor.isNone

/-- The entry without the record of a partition and without its cursor. -/
def evict (x : Entry) (p : Partition) : Entry := { x.setRecord p none with cursor := none }

@[simp] theorem record_evict (x : Entry) (p : Partition) : (x.evict p).record p = none := by
  cases p <;> rfl

end Entry

namespace Cache

/-- What a cache holds for a sender. -/
def entry (c : Cache) (sender : String) : Entry :=
  ⟨c.normal.get? sender, c.test.get? sender, c.cursors.get? sender⟩

theorem get?_eq (c : Cache) (p : Partition) (sender : String) :
    c.get? p sender = (c.entry sender).record p := by
  cases p <;> rfl

theorem contains_eq (c : Cache) (p : Partition) (sender : String) :
    c.contains p sender = ((c.entry sender).record p).isSome := by
  cases p <;> rfl

theorem cursor_eq (c : Cache) (sender : String) : c.cursor sender = (c.entry sender).lastCursor :=
  rfl

theorem hasEntries_eq (c : Cache) (sender : String) :
    c.hasEntries sender = !(c.entry sender).isEmpty := by
  simp only [hasEntries, Dict.contains, Entry.isEmpty, entry]
  cases c.normal.get? sender <;> cases c.test.get? sender <;> cases c.cursors.get? sender <;> rfl

theorem entry_setRecords (c : Cache) (p : Partition) (d : Dict Record) (sender : String) :
    (c.setRecords p d).entry sender = (c.entry sender).setRecord p (d.get? sender) := by
  cases p <;> rfl

theorem entry_put (c : Cache) (p : Partition) (sender : String) (r : Record) (other : String) :
    (c.put p sender r).entry other =
      if sender = other then (c.entry other).setRecord p (some r) else c.entry other := by
  rw [put, entry_setRecords, Dict.get?_insert]
  split
  · rfl
  · cases p <;> rfl

theorem entry_setCursor (c : Cache) (sender : String) (cursor : Cursor) (other : String) :
    (c.setCursor sender cursor).entry other =
      if sender = other then { c.entry other with cursor := some cursor }
      else c.entry other := by
  simp only [entry, setCursor, Dict.get?_insert]
  split <;> rfl

theorem entry_evict (c : Cache) (p : Partition) (sender : String) (id : Nat) (other : String) :
    (c.evict p sender id).1.entry other =
      if sender = other then (c.entry other).evict p else c.entry other := by
  by_cases ho : sender = other
  · subst ho
    cases p <;> simp [evict, entry, setRecords, records, Dict.get?_erase, Entry.evict,
      Entry.setRecord]
  · cases p <;> simp [evict, entry, setRecords, records, Dict.get?_erase, ho]

/-- The entries are the same whatever the locks. -/
@[simp] theorem entry_setLocks (c : Cache) (locks : Locks) (sender : String) :
    entry { c with locks } sender = c.entry sender := rfl

@[simp] theorem entry_unlock (c : Cache) (id : Nat) (sender : String) :
    (c.unlock id).entry sender = c.entry sender := rfl

@[simp] theorem entry_release (c : Cache) (sender : String) (id : Nat) (other : String) :
    (c.release sender id).entry other = c.entry other := rfl

/-! ### The locks beside the entries -/

@[simp] theorem setRecords_locks (c : Cache) (p : Partition) (d : Dict Record) :
    (c.setRecords p d).locks = c.locks := by
  cases p <;> rfl

@[simp] theorem put_locks (c : Cache) (p : Partition) (sender : String) (r : Record) :
    (c.put p sender r).locks = c.locks := by
  simp [put]

@[simp] theorem setCursor_locks (c : Cache) (sender : String) (cursor : Cursor) :
    (c.setCursor sender cursor).locks = c.locks := rfl

@[simp] theorem unlock_locks (c : Cache) (id : Nat) : (c.unlock id).locks = c.locks.drop id := rfl

@[simp] theorem evict_locks (c : Cache) (p : Partition) (sender : String) (id : Nat) :
    (c.evict p sender id).1.locks = (c.locks.forgetIfSole sender).drop id := by
  simp [evict]

theorem release_locks (c : Cache) (sender : String) (id : Nat) : (c.release sender id).locks =
    (if (c.entry sender).isEmpty then c.locks.forgetIfSole sender else c.locks).drop id := by
  rw [release, hasEntries_eq]
  cases (c.entry sender).isEmpty <;> rfl

/-- Giving a lock back keeps the locks coherent, whether the entry stays or goes. -/
theorem release_coherent {c : Cache} {sender : String} {id : Nat} {h : Handle}
    (hc : c.locks.Coherent) (hf : c.locks.find? id = some h) (hs : h.sender = sender) :
    (c.release sender id).locks.Coherent := by
  rw [release_locks]
  split
  · exact hs ▸ hc.forgetDrop hf
  · exact hc.drop id

end Cache

end DialogueStore
