/-
No sender ever has two locks.

A cache is used from many places at once, and each of its calls is one step.
Only `lock` takes two: the handle is taken from the map first, and the mutex is
asked for afterwards, with anything in between.  `Use` lists the steps, and a
list of them in any order is a history of the cache:

* `use_coherent` — no step breaks the invariant of the locks;
* `one_mutex_per_sender` — after every history all handles of a sender are on
  the one mutex that the map has for it, and at most one of them holds it.
-/
import DialogueStore.Proofs.Entry

namespace DialogueStore

namespace Locks

/-- Whether a handle is the guard of a sender. -/
def isGuard (l : Locks) (sender : String) (id : Nat) : Bool :=
  (l.find? id).any fun h => h.sender = sender && h.grip = .held

/-- Whether a handle has not asked for its mutex yet. -/
def isTaken (l : Locks) (id : Nat) : Bool := (l.find? id).any fun h => h.grip = .taken

/-- The number of guards of a sender. -/
def guardCount (l : Locks) (sender : String) : Nat :=
  l.handles.countP fun h => h.sender = sender && h.grip = .held

theorem Coherent.guardCount_le_one {l : Locks} (hl : l.Coherent) (sender : String) :
    l.guardCount sender ≤ 1 := by
  rw [guardCount, List.countP_eq_length_filter]
  have hmem : ∀ {h}, h ∈ l.handles.filter (fun h => h.sender = sender && h.grip = .held) →
      h ∈ l.handles ∧ h.sender = sender ∧ h.grip = .held := fun hm => by simpa using hm
  have hnodup := (hl.ids.of_map _).filter fun h => h.sender = sender && h.grip = .held
  rcases hf : l.handles.filter fun h => h.sender = sender && h.grip = .held with
    _ | ⟨a, _ | ⟨b, rest⟩⟩
  · simp [hf]
  · simp [hf]
  · rw [hf] at hmem hnodup
    obtain ⟨ham, has, hag⟩ := hmem List.mem_cons_self
    obtain ⟨hbm, hbs, hbg⟩ := hmem (List.mem_cons_of_mem a List.mem_cons_self)
    have hab := hl.eq_of_id ham hbm (hl.exclusive a ham b hbm hag hbg (has.trans hbs.symm))
    exact absurd hnodup (by simp [hab])

end Locks

namespace Cache

/-- One call on a cache. -/
inductive Use
  /-- The first half of `lock`. -/
  | take (sender : String)
  /-- The second half, for a handle that was taken. -/
  | acquire (id : Nat)
  | tryLock (sender : String)
  /-- Drops a guard, or a handle that has not got that far. -/
  | drop (id : Nat)
  /-- Gives back the guard of a sender. -/
  | release (sender : String) (id : Nat)
  /-- Drops what is cached for a sender, and its guard. -/
  | evict (p : Partition) (sender : String) (id : Nat)
  | prune
  | put (p : Partition) (sender : String) (r : Record)
  | setCursor (sender : String) (cursor : Cursor)

/-- The cache after a call.  One that is not given the handle it needs changes nothing. -/
def use (c : Cache) : Use → Cache
  | .take sender => { c with locks := (c.locks.take sender).1 }
  | .acquire id => if c.locks.isTaken id then { c with locks := c.locks.acquire id } else c
  | .tryLock sender => (c.tryLock sender).1
  | .drop id => c.unlock id
  | .release sender id => if c.locks.isGuard sender id then c.release sender id else c
  | .evict p sender id => if c.locks.isGuard sender id then (c.evict p sender id).1 else c
  | .prune => c.prune.1
  | .put p sender r => c.put p sender r
  | .setCursor sender cursor => c.setCursor sender cursor

theorem use_coherent {c : Cache} (hc : c.locks.Coherent) (u : Use) :
    (c.use u).locks.Coherent := by
  -- A guard is a handle that is known and has its own sender.
  have hguard : ∀ {sender id}, c.locks.isGuard sender id = true →
      ∃ h, c.locks.find? id = some h ∧ h.sender = sender := by
    intro sender id hg
    obtain ⟨h, hf, hh⟩ := Option.any_eq_true _ _ |>.1 hg
    exact ⟨h, hf, by simpa using (Bool.and_eq_true_iff.1 hh).1⟩
  cases u with
  | take sender => exact hc.take sender
  | acquire id =>
    simp only [use]
    split
    · rename_i ht
      obtain ⟨h, hf, hh⟩ := Option.any_eq_true _ _ |>.1 ht
      exact hc.acquire hf (by simpa using hh)
    · exact hc
  | tryLock sender => exact hc.tryLock sender
  | drop id => exact hc.drop id
  | release sender id =>
    simp only [use]
    split
    · rename_i hg
      obtain ⟨h, hf, hs⟩ := hguard hg
      exact release_coherent hc hf hs
    · exact hc
  | evict p sender id =>
    simp only [use]
    split
    · rename_i hg
      obtain ⟨h, hf, rfl⟩ := hguard hg
      rw [evict_locks]
      exact hc.forgetDrop hf
    · exact hc
  | prune => exact hc.prune _
  | put p sender r => simpa only [use, put_locks] using hc
  | setCursor sender cursor => exact hc

theorem uses_coherent (uses : List Use) : (uses.foldl use {}).locks.Coherent := by
  have go : ∀ (uses : List Use) (c : Cache), c.locks.Coherent →
      (uses.foldl use c).locks.Coherent := by
    intro uses
    induction uses with
    | nil => exact fun _ hc => hc
    | cons u uses ih => exact fun c hc => ih _ (use_coherent hc u)
  exact go uses {} Locks.coherent_empty

/-- **One lock for each sender.**  Whatever calls a cache has seen, in whatever order, every handle
is on the mutex that the map has for its sender, and no sender has two guards. -/
theorem one_mutex_per_sender (uses : List Use) :
    (∀ h ∈ (uses.foldl use {}).locks.handles,
      (uses.foldl use {}).locks.entries.get? h.sender = some h.mutex) ∧
    ∀ sender, (uses.foldl use {}).locks.guardCount sender ≤ 1 :=
  ⟨(uses_coherent uses).stored, (uses_coherent uses).guardCount_le_one⟩

end Cache

end DialogueStore
