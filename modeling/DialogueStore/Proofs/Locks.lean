/-
The lock map is sound.

Entries of the map come and go: `take` creates one where there is none, and
`forgetIfSole` and `prune` remove those that nobody seems to need.  A handle
that were left on a forgotten mutex would let two tasks hold the lock of one
sender.  `Coherent` is the invariant that excludes it, and each operation keeps
it:

* `Coherent.take`, `Coherent.acquire`, `Coherent.lock`, `Coherent.tryLock` — asking;
* `Coherent.drop`, `Coherent.forgetDrop` — giving back, with or without the entry;
* `Coherent.prune` — forgetting idle entries.

Design notes: `isLocked` speaks of a sender where the definitions speak of a
mutex.  On coherent locks the two agree, so that nothing outside this file has
to mention a mutex.
-/
import Mathlib.Data.List.Nodup
import DialogueStore.Cache.Locks
import DialogueStore.Proofs.Maps

namespace DialogueStore

/-- Where keys are distinct, a search by key finds an entry just if it is there. -/
theorem find?_key_iff {α : Type} {l : List α} {key : α → Nat} (hn : (l.map key).Nodup)
    {k : Nat} {a : α} : l.find? (fun b => key b = k) = some a ↔ a ∈ l ∧ key a = k := by
  refine ⟨fun hf => ⟨List.mem_of_find?_eq_some hf, by simpa using List.find?_some hf⟩, ?_⟩
  rintro ⟨hm, rfl⟩
  cases hf : l.find? (fun b => key b = key a) with
  | none => exact absurd (List.find?_eq_none.1 hf a hm) (by simp)
  | some b =>
    have hk : key b = key a := by simpa using List.find?_some hf
    rw [List.inj_on_of_nodup_map hn (List.mem_of_find?_eq_some hf) hm hk]

namespace Locks

/-- Whether somebody holds the lock of a sender. -/
def isLocked (l : Locks) (sender : String) : Bool :=
  l.handles.any fun h => h.sender = sender && h.grip = .held

/-- The mutex that a new handle of a sender is on. -/
def mutexOf (l : Locks) (sender : String) : Nat := (l.entries.get? sender).getD l.nextMutex

/-- The map and the handles fit each other. -/
structure Coherent (l : Locks) : Prop where
  sorted : l.entries.Sorted
  entry_lt : ∀ {sender mutex}, l.entries.get? sender = some mutex → mutex < l.nextMutex
  /-- No two senders share a mutex. -/
  apart : ∀ {sender other mutex}, l.entries.get? sender = some mutex →
    l.entries.get? other = some mutex → sender = other
  ids : (l.handles.map (·.id)).Nodup
  id_lt : ∀ h ∈ l.handles, h.id < l.nextHandle
  /-- Each handle is on the mutex that the map has for its sender. -/
  stored : ∀ h ∈ l.handles, l.entries.get? h.sender = some h.mutex
  exclusive : ∀ h ∈ l.handles, ∀ h' ∈ l.handles,
    h.grip = .held → h'.grip = .held → h.sender = h'.sender → h.id = h'.id
  /-- Nobody waits for a free lock. -/
  waits : ∀ h ∈ l.handles, h.grip = .waiting → l.isLocked h.sender = true

variable {l : Locks} {id : Nat} {sender : String} {h : Handle}

theorem isLocked_iff : l.isLocked sender = true ↔
    ∃ h ∈ l.handles, h.sender = sender ∧ h.grip = .held := by
  simp [isLocked]

theorem coherent_empty : Coherent {} where
  sorted := .nil
  entry_lt := by simp
  apart := by simp
  ids := .nil
  id_lt := by simp
  stored := by simp
  exclusive := by simp
  waits := by simp

namespace Coherent

theorem eq_of_id (hl : l.Coherent) {h' : Handle} (hm : h ∈ l.handles) (hm' : h' ∈ l.handles)
    (hid : h.id = h'.id) : h = h' :=
  List.inj_on_of_nodup_map hl.ids hm hm' hid

theorem find?_eq_some (hl : l.Coherent) : l.find? id = some h ↔ h ∈ l.handles ∧ h.id = id :=
  find?_key_iff hl.ids

theorem holds_iff (hl : l.Coherent) :
    l.holds id = true ↔ ∃ h ∈ l.handles, h.id = id ∧ h.grip = .held := by
  simp only [holds, Option.any_eq_true, hl.find?_eq_some, decide_eq_true_eq]
  exact ⟨fun ⟨h, ⟨hm, hid⟩, hg⟩ => ⟨h, hm, hid, hg⟩, fun ⟨h, hm, hid, hg⟩ => ⟨h, ⟨hm, hid⟩, hg⟩⟩

/-- Two handles are on one mutex just if they are the same sender's. -/
theorem mutex_eq_iff (hl : l.Coherent) {h' : Handle} (hm : h ∈ l.handles)
    (hm' : h' ∈ l.handles) : h.mutex = h'.mutex ↔ h.sender = h'.sender := by
  have hs := hl.stored h hm
  have hs' := hl.stored h' hm'
  constructor
  · intro heq
    exact hl.apart hs (heq ▸ hs')
  · intro heq
    rw [heq, hs'] at hs
    exact (Option.some.inj hs).symm

/-- The mutex of a handle is free just if its sender is not locked. -/
theorem isFree_mutex (hl : l.Coherent) (hm : h ∈ l.handles) :
    l.isFree h.mutex = !l.isLocked h.sender := by
  rw [Bool.eq_iff_iff, Bool.not_eq_true', Bool.eq_false_iff, Ne, isLocked_iff]
  simp only [isFree, List.all_eq_true, Bool.or_eq_true, decide_eq_true_eq]
  constructor
  · rintro hall ⟨h', hm', hs, hg⟩
    rcases hall h' hm' with hne | hne
    · exact hne ((hl.mutex_eq_iff hm' hm).2 hs)
    · exact hne hg
  · intro hnone h' hm'
    by_cases heq : h'.mutex = h.mutex
    · exact .inr fun hg => hnone ⟨h', hm', (hl.mutex_eq_iff hm' hm).1 heq, hg⟩
    · exact .inl heq

end Coherent

/-! ### Asking for a lock -/

theorem take_handles (l : Locks) (sender : String) : (l.take sender).1.handles =
    l.handles ++ [⟨l.nextHandle, sender, l.mutexOf sender, .taken⟩] := by
  unfold take mutexOf
  cases l.entries.get? sender <;> rfl

@[simp] theorem take_id (l : Locks) (sender : String) : (l.take sender).2 = l.nextHandle := by
  unfold take
  cases l.entries.get? sender <;> rfl

theorem take_get? (l : Locks) (sender other : String) : (l.take sender).1.entries.get? other =
    if sender = other then some (l.mutexOf sender) else l.entries.get? other := by
  unfold take mutexOf
  cases hs : l.entries.get? sender with
  | none => simp [Dict.get?_insert]
  | some mutex =>
    by_cases ho : sender = other
    · simp [← ho, hs]
    · simp [ho]

theorem acquire_entries (l : Locks) (id : Nat) : (l.acquire id).entries = l.entries := by
  unfold acquire
  split <;> rfl

theorem isLocked_take (l : Locks) (sender other : String) :
    (l.take sender).1.isLocked other = l.isLocked other := by
  simp [isLocked, take_handles]

namespace Coherent

/-- A new mutex is nobody else's, since all names in the map are below it. -/
theorem eq_of_mutexOf (hl : l.Coherent) {other : String}
    (ho : l.entries.get? other = some (l.mutexOf sender)) : sender = other := by
  cases hs : l.entries.get? sender with
  | none =>
    have := hl.entry_lt ho
    simp [mutexOf, hs] at this
  | some m => exact hl.apart hs (by simpa [mutexOf, hs] using ho)

theorem take (hl : l.Coherent) (sender : String) : (l.take sender).1.Coherent where
  sorted := by
    unfold Locks.take
    cases l.entries.get? sender with
    | none => exact hl.sorted.insert _ _
    | some mutex => exact hl.sorted
  entry_lt := by
    intro other mutex ho
    unfold Locks.take at ho ⊢
    cases hs : l.entries.get? sender with
    | some m => exact hl.entry_lt (by simpa [hs] using ho)
    | none =>
      simp only [hs, Dict.get?_insert] at ho ⊢
      split at ho
      · injection ho with ho
        omega
      · exact Nat.lt_succ_of_lt (hl.entry_lt ho)
  -- Whoever has the sender's mutex afterwards has had it before, or it is new and nobody's.
  apart := by
    intro s s' mutex hs hs'
    rw [take_get?] at hs hs'
    split at hs <;> split at hs'
    · rename_i h₁ h₂
      exact h₁.symm.trans h₂
    · rename_i h₁ _
      exact h₁.symm.trans (hl.eq_of_mutexOf (hs ▸ hs'))
    · rename_i _ h₂
      exact (hl.eq_of_mutexOf (hs' ▸ hs)).symm.trans h₂
    · exact hl.apart hs hs'
  ids := by
    rw [take_handles, List.map_append, List.nodup_append]
    refine ⟨hl.ids, List.nodup_singleton _, ?_⟩
    intro a ha b hb
    obtain ⟨h, hm, rfl⟩ := List.mem_map.1 ha
    have := hl.id_lt h hm
    simp only [List.map_cons, List.map_nil, List.mem_singleton] at hb
    omega
  id_lt := by
    intro h hm
    have hn : (l.take sender).1.nextHandle = l.nextHandle + 1 := by
      unfold Locks.take
      cases l.entries.get? sender <;> rfl
    rw [hn]
    rw [take_handles, List.mem_append, List.mem_singleton] at hm
    rcases hm with hm | rfl
    · exact Nat.lt_succ_of_lt (hl.id_lt h hm)
    · exact Nat.lt_succ_self _
  -- A handle that was there keeps its mutex, since taking one more finds the entry it put there.
  stored := by
    intro h hm
    rw [take_handles, List.mem_append, List.mem_singleton] at hm
    rw [take_get?]
    rcases hm with hm | rfl
    · have hs := hl.stored h hm
      split
      · rename_i heq
        rw [heq, mutexOf, hs, Option.getD_some]
      · exact hs
    · simp
  exclusive := by
    -- The new handle holds nothing, as it has not asked for its mutex yet.
    intro h hm h' hm' hg hg' hs
    rw [take_handles, List.mem_append, List.mem_singleton] at hm hm'
    rcases hm with hm | rfl
    · rcases hm' with hm' | rfl
      · exact hl.exclusive h hm h' hm' hg hg' hs
      · exact absurd hg' (by simp)
    · exact absurd hg (by simp)
  waits := by
    intro h hm hg
    rw [take_handles, List.mem_append, List.mem_singleton] at hm
    rw [isLocked_take]
    rcases hm with hm | rfl
    · exact hl.waits h hm hg
    · exact absurd hg (by simp)

end Coherent

/-- What a handle has of its mutex once it has asked for it. -/
def gripOf (l : Locks) (sender : String) : Grip := if l.isLocked sender then .waiting else .held

theorem acquire_eq (hl : l.Coherent) (hf : l.find? id = some h) : l.acquire id =
    { l with handles := l.handles.filter (fun h => h.id ≠ id) ++
        [{ h with grip := l.gripOf h.sender }] } := by
  have hm := (hl.find?_eq_some.1 hf).1
  unfold acquire gripOf
  simp only [hf, hl.isFree_mutex hm]
  cases l.isLocked h.sender <;> rfl

namespace Coherent

/-- A handle that has not asked yet may ask. -/
theorem acquire (hl : l.Coherent) (hf : l.find? id = some h) (hg : h.grip = .taken) :
    (l.acquire id).Coherent := by
  obtain ⟨hm, rfl⟩ := hl.find?_eq_some.1 hf
  rw [acquire_eq hl hf]
  have hmem : ∀ {x}, x ∈ l.handles.filter (fun x => x.id ≠ h.id) ++
      [{ h with grip := l.gripOf h.sender }] →
      (x ∈ l.handles ∧ x.id ≠ h.id) ∨ x = { h with grip := l.gripOf h.sender } := by
    intro x hx
    simpa using hx
  -- Whoever holds the lock now is still among the handles.
  have hlocked : ∀ s, l.isLocked s = true → ∃ x ∈ l.handles.filter (fun x => x.id ≠ h.id) ++
      [{ h with grip := l.gripOf h.sender }], x.sender = s ∧ x.grip = .held := by
    intro s hs
    obtain ⟨x, hx, hxs, hxg⟩ := isLocked_iff.1 hs
    refine ⟨x, ?_, hxs, hxg⟩
    have hne : x.id ≠ h.id := fun heq => by
      rw [hl.eq_of_id hx hm heq, hg] at hxg
      exact absurd hxg (by simp)
    simp [hx, hne]
  -- It gets the lock only if nobody has it.
  have hfree : l.gripOf h.sender = .held → l.isLocked h.sender = false := by
    unfold gripOf
    split <;> simp_all
  refine ⟨hl.sorted, hl.entry_lt, hl.apart, ?_, ?_, ?_, ?_, ?_⟩
  · rw [List.map_append, List.nodup_append]
    refine ⟨(List.filter_sublist.map _).nodup hl.ids, List.nodup_singleton _, ?_⟩
    intro a ha b hb
    obtain ⟨x, hx, rfl⟩ := List.mem_map.1 ha
    have hne : x.id ≠ h.id := by simpa using (List.mem_filter.1 hx).2
    simp only [List.map_cons, List.map_nil, List.mem_singleton] at hb
    exact hb ▸ hne
  · intro x hx
    rcases hmem hx with ⟨hx, -⟩ | rfl
    · exact hl.id_lt x hx
    · exact hl.id_lt h hm
  · intro x hx
    rcases hmem hx with ⟨hx, -⟩ | rfl
    · exact hl.stored x hx
    · exact hl.stored h hm
  · intro x hx y hy hxg hyg hs
    rcases hmem hx with ⟨hx, -⟩ | rfl <;> rcases hmem hy with ⟨hy, -⟩ | rfl
    · exact hl.exclusive x hx y hy hxg hyg hs
    · exact absurd (isLocked_iff.2 ⟨x, hx, hs, hxg⟩) (by simp [hfree hyg])
    · exact absurd (isLocked_iff.2 ⟨y, hy, hs.symm, hyg⟩) (by simp [hfree hxg])
    · rfl
  · intro x hx hxg
    rcases hmem hx with ⟨hx, -⟩ | rfl
    · exact isLocked_iff.2 (hlocked _ (hl.waits x hx hxg))
    · refine isLocked_iff.2 (hlocked _ ?_)
      -- It waits only if the lock is held.
      by_contra hn
      simp [gripOf, hn] at hxg

end Coherent

/-! ### Giving a handle up -/

/-- A freed mutex goes to the first one who waits for it, and to nobody if nobody does. -/
theorem promote_cases (mutex : Nat) (handles : List Handle) :
    ((∀ x ∈ handles, x.mutex = mutex → x.grip ≠ .waiting) ∧ promote mutex handles = handles) ∨
    ∃ before w after, handles = before ++ w :: after ∧ w.mutex = mutex ∧ w.grip = .waiting ∧
      promote mutex handles = before ++ { w with grip := .held } :: after := by
  -- The first handle that waits is the one that is promoted.
  induction handles with
  | nil => exact .inl (by simp [promote])
  | cons x rest ih =>
    by_cases hx : x.mutex = mutex ∧ x.grip = .waiting
    · exact .inr ⟨[], x, rest, rfl, hx.1, hx.2, by simp [promote, hx]⟩
    · have hp : promote mutex (x :: rest) = x :: promote mutex rest := by simp [promote, hx]
      rcases ih with ⟨hnone, heq⟩ | ⟨before, w, after, rfl, hw, hg, heq⟩
      · refine .inl ⟨?_, by rw [hp, heq]⟩
        intro y hy hm hg
        rcases List.mem_cons.1 hy with rfl | hy
        · exact hx ⟨hm, hg⟩
        · exact hnone y hy hm hg
      · exact .inr ⟨x :: before, w, after, rfl, hw, hg, by rw [hp, heq]; rfl⟩

theorem drop_entries (l : Locks) (id : Nat) : (l.drop id).entries = l.entries := by
  unfold drop
  split <;> rfl

theorem drop_of_find? (hf : l.find? id = some h) : l.drop id =
    { l with handles := if h.grip = .held then promote h.mutex (l.handles.filter fun h => h.id ≠ id)
        else l.handles.filter fun h => h.id ≠ id } := by
  simp only [drop, hf]

/-- What becomes of a handle when another one is given up: if it waited it may hold the lock now,
and nothing else changes. -/
inductive Kept : Handle → Handle → Prop
  | same (h : Handle) : Kept h h
  | promoted (h : Handle) (hg : h.grip = .waiting) : Kept h { h with grip := .held }

namespace Kept

variable {h h' : Handle}

theorem id_eq (k : Kept h h') : h'.id = h.id := by cases k <;> rfl

theorem sender_eq (k : Kept h h') : h'.sender = h.sender := by cases k <;> rfl

theorem mutex_eq (k : Kept h h') : h'.mutex = h.mutex := by cases k <;> rfl

theorem held (k : Kept h h') (hg : h.grip = .held) : h'.grip = .held := by
  cases k with
  | same => exact hg
  | promoted => rfl

end Kept

theorem promote_ids (mutex : Nat) (handles : List Handle) :
    (promote mutex handles).map (·.id) = handles.map (·.id) := by
  rcases promote_cases mutex handles with ⟨-, heq⟩ | ⟨before, w, after, rfl, -, -, heq⟩
  · rw [heq]
  · simp [heq]

theorem mem_promote {mutex : Nat} {handles : List Handle} {x : Handle}
    (hx : x ∈ promote mutex handles) : ∃ y ∈ handles, Kept y x := by
  rcases promote_cases mutex handles with ⟨-, heq⟩ | ⟨before, w, after, rfl, -, hg, heq⟩
  · exact ⟨x, heq ▸ hx, .same x⟩
  · rw [heq, List.mem_append, List.mem_cons] at hx
    rcases hx with hx | rfl | hx
    · exact ⟨x, by simp [hx], .same x⟩
    · exact ⟨w, by simp, .promoted w hg⟩
    · exact ⟨x, by simp [hx], .same x⟩

theorem promote_of_mem {mutex : Nat} {handles : List Handle} {y : Handle} (hy : y ∈ handles) :
    ∃ x ∈ promote mutex handles, Kept y x := by
  rcases promote_cases mutex handles with ⟨-, heq⟩ | ⟨before, w, after, rfl, -, hg, heq⟩
  · exact ⟨y, heq.symm ▸ hy, .same y⟩
  · rw [heq]
    rw [List.mem_append, List.mem_cons] at hy
    rcases hy with hy | rfl | hy
    · exact ⟨y, by simp [hy], .same y⟩
    · exact ⟨_, by simp, .promoted y hg⟩
    · exact ⟨y, by simp [hy], .same y⟩

theorem drop_ids (hf : l.find? id = some h) :
    (l.drop id).handles.map (·.id) = (l.handles.map (·.id)).filter (fun i => i ≠ id) := by
  rw [drop_of_find? hf, List.filter_map]
  dsimp only
  split
  · rw [promote_ids]; rfl
  · rfl

theorem mem_drop (hf : l.find? id = some h) {x : Handle} (hx : x ∈ (l.drop id).handles) :
    ∃ y ∈ l.handles, y.id ≠ id ∧ Kept y x := by
  rw [drop_of_find? hf] at hx
  dsimp only at hx
  obtain ⟨y, hy, k⟩ : ∃ y ∈ l.handles.filter fun h => h.id ≠ id, Kept y x := by
    split at hx
    · exact mem_promote hx
    · exact ⟨x, hx, .same x⟩
  obtain ⟨hy, hne⟩ := List.mem_filter.1 hy
  exact ⟨y, hy, by simpa using hne, k⟩

theorem drop_of_mem (hf : l.find? id = some h) {y : Handle} (hy : y ∈ l.handles)
    (hne : y.id ≠ id) : ∃ x ∈ (l.drop id).handles, Kept y x := by
  rw [drop_of_find? hf]
  dsimp only
  have hmem : y ∈ l.handles.filter fun h => h.id ≠ id := by simp [hy, hne]
  split
  · exact promote_of_mem hmem
  · exact ⟨y, hmem, .same y⟩

namespace Coherent

/-- Beside the holder nobody holds the lock of its sender. -/
theorem not_held (hl : l.Coherent) (hm : h ∈ l.handles) (hg : h.grip = .held) {x : Handle}
    (hx : x ∈ l.handles) (hne : x.id ≠ h.id) (hs : x.sender = h.sender) : x.grip ≠ .held :=
  fun hxg => hne (hl.exclusive x hx h hm hxg hg hs)

theorem drop_exclusive (hl : l.Coherent) (hf : l.find? id = some h) :
    ∀ x ∈ (l.drop id).handles, ∀ y ∈ (l.drop id).handles,
      x.grip = .held → y.grip = .held → x.sender = y.sender → x.id = y.id := by
  obtain ⟨hm, rfl⟩ := hl.find?_eq_some.1 hf
  have hsub : ∀ {x}, x ∈ l.handles.filter (fun x => x.id ≠ h.id) →
      x ∈ l.handles ∧ x.id ≠ h.id := fun hx => by simpa using hx
  rw [drop_of_find? hf]
  dsimp only
  split
  · rename_i hg
    rcases promote_cases h.mutex (l.handles.filter fun x => x.id ≠ h.id) with
      ⟨-, heq⟩ | ⟨before, w, after, hrest, hw, -, heq⟩
    · -- Nobody waits for the lock.
      rw [heq]
      intro x hx y hy hxg hyg hs
      exact hl.exclusive x (hsub hx).1 y (hsub hy).1 hxg hyg hs
    · -- The promoted handle is alone with the lock, for the one given up had it before.
      have hwm : w ∈ l.handles := (hsub (hrest ▸ List.mem_append_cons_self)).1
      have hws : w.sender = h.sender := (hl.mutex_eq_iff hwm hm).1 hw
      have hcase : ∀ {x}, x ∈ before ++ { w with grip := .held } :: after →
          x = { w with grip := .held } ∨ x ∈ l.handles ∧ x.id ≠ h.id := by
        intro x hx
        rw [List.mem_append, List.mem_cons] at hx
        rcases hx with hx | rfl | hx
        · exact .inr (hsub (hrest ▸ by simp [hx]))
        · exact .inl rfl
        · exact .inr (hsub (hrest ▸ by simp [hx]))
      rw [heq]
      intro x hx y hy hxg hyg hs
      rcases hcase hx with rfl | ⟨hx, hxne⟩ <;> rcases hcase hy with rfl | ⟨hy, hyne⟩
      · rfl
      · exact absurd hyg (hl.not_held hm hg hy hyne (hs.symm.trans hws))
      · exact absurd hxg (hl.not_held hm hg hx hxne (hs.trans hws))
      · exact hl.exclusive x hx y hy hxg hyg hs
  · -- The handle given up did not have the lock, so that nobody is promoted.
    intro x hx y hy hxg hyg hs
    exact hl.exclusive x (hsub hx).1 y (hsub hy).1 hxg hyg hs

theorem drop_waits (hl : l.Coherent) (hf : l.find? id = some h) :
    ∀ x ∈ (l.drop id).handles, x.grip = .waiting → (l.drop id).isLocked x.sender = true := by
  obtain ⟨hm, rfl⟩ := hl.find?_eq_some.1 hf
  intro x hx hxg
  obtain ⟨x, hx', hne, k⟩ := mem_drop hf hx
  -- One that waits still has not been promoted, so that it was there before and waited as well.
  cases k with
  | promoted => exact absurd hxg (by simp)
  | same =>
    obtain ⟨y, hy, hys, hyg⟩ := isLocked_iff.1 (hl.waits x hx' hxg)
    by_cases hyne : y.id = h.id
    · -- The holder is the one that goes, so somebody is promoted: `x` waits, for one.
      obtain rfl := hl.eq_of_id hy hm hyne
      rw [drop_of_find? hf, if_pos hyg] at hx
      rw [drop_of_find? hf, if_pos hyg]
      have hmutex : x.mutex = y.mutex := (hl.mutex_eq_iff hx' hm).2 hys.symm
      rcases promote_cases y.mutex (l.handles.filter fun x => x.id ≠ y.id) with
        ⟨hnone, -⟩ | ⟨before, w, after, hrest, hw, -, heq⟩
      · exact absurd hxg (hnone x (by simp [hx', hne]) hmutex)
      · have hwr : w ∈ l.handles.filter fun x => x.id ≠ y.id := hrest ▸ List.mem_append_cons_self
        have hwm := (List.mem_filter.1 hwr).1
        refine isLocked_iff.2 ⟨{ w with grip := .held }, heq ▸ List.mem_append_cons_self, ?_, rfl⟩
        exact ((hl.mutex_eq_iff hwm hm).1 hw).trans hys
    · obtain ⟨z, hz, k⟩ := drop_of_mem hf hy hyne
      exact isLocked_iff.2 ⟨z, hz, k.sender_eq.trans hys, k.held hyg⟩

theorem drop (hl : l.Coherent) (id : Nat) : (l.drop id).Coherent := by
  cases hf : l.find? id with
  | none => simpa only [Locks.drop, hf] using hl
  | some h =>
    -- Only the grips and the handles change: nothing is said of them in the first three fields.
    have hent := drop_entries l id
    refine ⟨hent ▸ hl.sorted, ?_, ?_, ?_, ?_, ?_, hl.drop_exclusive hf, hl.drop_waits hf⟩
    · rw [drop_of_find? hf]
      exact hl.entry_lt
    · rw [hent]
      exact hl.apart
    · rw [drop_ids hf]
      exact hl.ids.filter _
    · intro x hx
      obtain ⟨y, hy, -, k⟩ := mem_drop hf hx
      have := hl.id_lt y hy
      rw [drop_of_find? hf, k.id_eq]
      exact this
    · intro x hx
      obtain ⟨y, hy, -, k⟩ := mem_drop hf hx
      rw [hent, k.sender_eq, k.mutex_eq]
      exact hl.stored y hy

/-- The handles of other senders are the same when a handle is given up. -/
theorem drop_others (hl : l.Coherent) (hf : l.find? id = some h) :
    ((l.drop id).handles.filter fun x => x.sender ≠ h.sender) =
      l.handles.filter fun x => x.sender ≠ h.sender := by
  obtain ⟨hm, rfl⟩ := hl.find?_eq_some.1 hf
  have hrest : ((l.handles.filter fun x => x.id ≠ h.id).filter fun x => x.sender ≠ h.sender) =
      l.handles.filter fun x => x.sender ≠ h.sender := by
    rw [List.filter_filter]
    refine List.filter_congr fun x hx => ?_
    by_cases hid : x.id = h.id
    · simp [hl.eq_of_id hx hm hid]
    · simp [hid]
  rw [drop_of_find? hf]
  dsimp only
  split
  · rcases promote_cases h.mutex (l.handles.filter fun x => x.id ≠ h.id) with
      ⟨-, heq⟩ | ⟨before, w, after, hsplit, hw, -, heq⟩
    · rw [heq, hrest]
    · -- The handle that has the lock now is on the same sender.
      have hwm : w ∈ l.handles := (List.mem_filter.1 (hsplit ▸ List.mem_append_cons_self)).1
      have hws : w.sender = h.sender := (hl.mutex_eq_iff hwm hm).1 hw
      rw [← hrest, heq, hsplit, List.filter_append, List.filter_append]
      simp [hws]
  · exact hrest

end Coherent

/-! ### Forgetting entries -/

namespace Coherent

/-- Entries without a handle may be forgotten. -/
theorem restrict (hl : l.Coherent) (keep : String × Nat → Bool)
    (hkeep : ∀ h ∈ l.handles, keep (h.sender, h.mutex) = true) :
    Coherent { l with entries := l.entries.filter keep } where
  sorted := hl.sorted.filter keep
  entry_lt := by
    intro sender mutex hs
    rw [hl.sorted.get?_filter, Option.filter_eq_some_iff] at hs
    exact hl.entry_lt hs.1
  apart := by
    intro sender other mutex hs ho
    rw [hl.sorted.get?_filter, Option.filter_eq_some_iff] at hs ho
    exact hl.apart hs.1 ho.1
  ids := hl.ids
  id_lt := hl.id_lt
  stored := by
    intro h hm
    rw [hl.sorted.get?_filter, hl.stored h hm, Option.filter_some, if_pos (hkeep h hm)]
  exclusive := hl.exclusive
  waits := hl.waits

theorem prune (hl : l.Coherent) (keep : String → Bool) : (l.prune keep).Coherent := by
  refine hl.restrict _ fun h hm => ?_
  have hpos : 0 < l.handleCount h.mutex := List.countP_pos_iff.2 ⟨h, hm, by simp⟩
  simp [hpos]

/-- A mutex in the map has handles just if its sender has. -/
theorem handleCount_pos_iff (hl : l.Coherent) {mutex : Nat}
    (hentry : l.entries.get? sender = some mutex) :
    0 < l.handleCount mutex ↔ ∃ h ∈ l.handles, h.sender = sender := by
  rw [handleCount, List.countP_pos_iff]
  refine exists_congr fun h => and_congr_right fun hm => ?_
  have hstored := hl.stored h hm
  rw [decide_eq_true_iff]
  constructor
  · rintro rfl
    exact hl.apart hstored hentry
  · rintro rfl
    exact Option.some.inj (hstored.symm.trans hentry)

theorem decide_handleCount_pos (hl : l.Coherent) {mutex : Nat}
    (hentry : l.entries.get? sender = some mutex) :
    decide (0 < l.handleCount mutex) = l.handles.any fun h => h.sender = sender := by
  rw [Bool.eq_iff_iff, decide_eq_true_iff, hl.handleCount_pos_iff hentry]
  simp

/-- The entries that are forgotten are those of senders without a handle that are not kept. -/
theorem get?_prune (hl : l.Coherent) (keep : String → Bool) (sender : String) :
    (l.prune keep).entries.get? sender = (l.entries.get? sender).filter fun _ =>
      l.handles.any (fun h => h.sender = sender) || keep sender := by
  rw [Locks.prune, hl.sorted.get?_filter]
  cases hentry : l.entries.get? sender with
  | none => rfl
  | some mutex => rw [Option.filter_some, Option.filter_some, hl.decide_handleCount_pos hentry]

/-- A handle that is alone on its mutex is its sender's only one. -/
theorem sender_ne_of_sole (hl : l.Coherent) (hm : h ∈ l.handles)
    (hsole : l.handleCount h.mutex = 1) {x : Handle} (hx : x ∈ l.handles) (hne : x.id ≠ h.id) :
    x.sender ≠ h.sender := by
  intro hs
  obtain ⟨a, ha⟩ := List.length_eq_one_iff.1 (List.countP_eq_length_filter.symm.trans hsole)
  have hin : ∀ y ∈ l.handles, y.mutex = h.mutex → y = a := by
    intro y hy hmutex
    have : y ∈ l.handles.filter fun x => x.mutex = h.mutex := by simp [hy, hmutex]
    simpa [ha] using this
  have hxa := hin x hx ((hl.mutex_eq_iff hx hm).2 hs)
  exact hne (by rw [hxa, hin h hm rfl])

end Coherent

theorem drop_setEntries (l : Locks) (entries : Dict Nat) (id : Nat) :
    Locks.drop { l with entries } id = { l.drop id with entries } := by
  have hfind : Locks.find? { l with entries } id = l.find? id := rfl
  unfold drop
  rw [hfind]
  cases l.find? id <;> rfl

theorem forgetIfSole_drop_handles (l : Locks) (sender : String) (id : Nat) :
    ((l.forgetIfSole sender).drop id).handles = (l.drop id).handles := by
  unfold forgetIfSole
  split
  · split
    · rw [drop_setEntries]
    · rfl
  · rfl

/-- The entry goes with a handle only if nobody else is left on the mutex. -/
theorem Coherent.forgetDrop (hl : l.Coherent) (hf : l.find? id = some h) :
    ((l.forgetIfSole h.sender).drop id).Coherent := by
  obtain ⟨hm, hid⟩ := hl.find?_eq_some.1 hf
  unfold forgetIfSole
  rw [hl.stored h hm]
  dsimp only
  split
  · rename_i hsole
    rw [drop_setEntries, ← drop_entries l id]
    refine (hl.drop id).restrict _ fun x hx => ?_
    obtain ⟨y, hy, hne, k⟩ := mem_drop hf hx
    have := hl.sender_ne_of_sole hm hsole hy (hid ▸ hne)
    simpa [k.sender_eq] using this
  · exact hl.drop id

/-! ### Asking for a lock in one go -/

@[simp] theorem lock_id (l : Locks) (sender : String) : (l.lock sender).2 = l.nextHandle := by
  simp [lock]

theorem lock_fst (l : Locks) (sender : String) :
    (l.lock sender).1 = (l.take sender).1.acquire l.nextHandle := by
  rw [← take_id l sender]
  rfl

theorem lock_get? (l : Locks) (sender other : String) : (l.lock sender).1.entries.get? other =
    if sender = other then some (l.mutexOf sender) else l.entries.get? other := by
  rw [lock_fst, acquire_entries, take_get?]

theorem Coherent.filter_nextHandle (hl : l.Coherent) :
    l.handles.filter (fun h => h.id ≠ l.nextHandle) = l.handles := by
  rw [List.filter_eq_self]
  intro h hm
  have := hl.id_lt h hm
  simp only [decide_eq_true_eq]
  omega

theorem Coherent.find?_take (hl : l.Coherent) (sender : String) :
    (l.take sender).1.find? l.nextHandle =
      some ⟨l.nextHandle, sender, l.mutexOf sender, .taken⟩ := by
  rw [(hl.take sender).find?_eq_some, take_handles]
  exact ⟨List.mem_append_cons_self, rfl⟩

theorem lock_handles (hl : l.Coherent) (sender : String) : (l.lock sender).1.handles =
    l.handles ++ [⟨l.nextHandle, sender, l.mutexOf sender, l.gripOf sender⟩] := by
  rw [lock_fst, acquire_eq (hl.take sender) (hl.find?_take sender), take_handles]
  simp only [List.filter_append, hl.filter_nextHandle, gripOf, isLocked_take]
  simp

theorem Coherent.lock (hl : l.Coherent) (sender : String) : (l.lock sender).1.Coherent := by
  rw [lock_fst]
  exact (hl.take sender).acquire (hl.find?_take sender) rfl

theorem Coherent.find?_lock (hl : l.Coherent) (sender : String) : (l.lock sender).1.find?
    l.nextHandle = some ⟨l.nextHandle, sender, l.mutexOf sender, l.gripOf sender⟩ := by
  rw [(hl.lock sender).find?_eq_some, lock_handles hl]
  exact ⟨List.mem_append_cons_self, rfl⟩

theorem Coherent.holds_lock (hl : l.Coherent) (sender : String) :
    (l.lock sender).1.holds l.nextHandle = !l.isLocked sender := by
  rw [holds, hl.find?_lock sender, gripOf]
  cases l.isLocked sender <;> rfl

/-- A lock that was free is free again once it is given back at once, and nobody has noticed. -/
theorem lock_drop_handles (hl : l.Coherent) (sender : String) :
    ((l.lock sender).1.drop l.nextHandle).handles = l.handles := by
  have hold : (l.lock sender).1.handles.filter (fun h => h.id ≠ l.nextHandle) = l.handles := by
    rw [lock_handles hl, List.filter_append, hl.filter_nextHandle]
    simp
  rw [drop_of_find? (hl.find?_lock sender)]
  dsimp only
  rw [hold]
  split
  · rename_i hg
    rcases promote_cases (l.mutexOf sender) l.handles with
      ⟨-, heq⟩ | ⟨pre, w, post, hrest, hw, hwg, -⟩
    · exact heq
    · -- A waiting handle would mean that the lock was not free.
      have hwm : w ∈ l.handles := hrest ▸ List.mem_append_cons_self
      have hs : sender = w.sender := hl.eq_of_mutexOf (hw ▸ hl.stored w hwm)
      have := hl.waits w hwm hwg
      simp [gripOf, hs, this] at hg
  · rfl

theorem tryLock_of_not_isLocked (hl : l.Coherent) (hfree : l.isLocked sender = false) :
    l.tryLock sender = ((l.lock sender).1, some l.nextHandle) := by
  have hh := hl.holds_lock sender
  simp only [tryLock, lock_id, hh, hfree, Bool.not_false, if_true]

theorem tryLock_of_isLocked (hl : l.Coherent) (hbusy : l.isLocked sender = true) :
    l.tryLock sender = ((l.lock sender).1.drop l.nextHandle, none) := by
  have hh := hl.holds_lock sender
  simp only [tryLock, lock_id, hh, hbusy, Bool.not_true, Bool.false_eq_true, if_false]

theorem Coherent.tryLock (hl : l.Coherent) (sender : String) :
    (l.tryLock sender).1.Coherent := by
  cases hs : l.isLocked sender with
  | true => rw [tryLock_of_isLocked hl hs]; exact (hl.lock sender).drop _
  | false => rw [tryLock_of_not_isLocked hl hs]; exact hl.lock sender

end Locks

end DialogueStore
