/-
Locks are granted in the order in which they were asked for.

The handles on a lock are kept in the order of asking, and a freed mutex goes to
the first one that waits.  So of all handles of a sender the first one holds the
lock, and the others wait: `Locks.InOrder` says so, and asking and giving back
keep it.

The tasks of an engine are kept in the order in which they began, which is the
order of their handles (`EngineState.InTurn`).  Who holds a lock can therefore be
read off the list of tasks alone, without any handle:

* `Engine.holds_iff_first` — a task holds its sender's lock just if it is the
  first task of its sender,
* `Engine.isLocked_iff_task` — a sender is locked just if it has a task.
-/
import DialogueStore.Proofs.History

namespace DialogueStore

namespace Locks

/-- What the first of two handles means for the second one: on the same lock, it waits. -/
def Behind (first second : Handle) : Prop :=
  first.sender = second.sender → second.grip = .waiting

/-- Of the handles of a sender all but the first one wait. -/
structure InOrder (l : Locks) : Prop where
  behind : l.handles.Pairwise Behind
  asked : ∀ h ∈ l.handles, h.grip ≠ .taken

variable {l l' : Locks} {h : Handle} {id mutex : Nat} {sender : String} {handles : List Handle}

theorem inOrder_empty : InOrder {} := ⟨.nil, by simp⟩

theorem InOrder.congr (ho : l.InOrder) (hh : l'.handles = l.handles) : l'.InOrder := by
  refine ⟨?_, ?_⟩
  · rw [hh]
    exact ho.behind
  · rw [hh]
    exact ho.asked

/-- Who is neither a holder nor a newcomer waits. -/
theorem InOrder.waiting_of_not_held (ho : l.InOrder) (hm : h ∈ l.handles) (hg : h.grip ≠ .held) :
    h.grip = .waiting := by
  have htaken := ho.asked h hm
  cases hgrip : h.grip with
  | taken => exact absurd hgrip htaken
  | waiting => rfl
  | held => exact absurd hgrip hg

/-- A newcomer waits if anybody has a handle already. -/
theorem InOrder.lock (ho : l.InOrder) (hl : l.Coherent) (sender : String) :
    (l.lock sender).1.InOrder := by
  have hhandles := lock_handles hl sender
  refine ⟨?_, ?_⟩
  · rw [hhandles, List.pairwise_append]
    refine ⟨ho.behind, List.pairwise_singleton _ _, ?_⟩
    intro h hm new hnew
    obtain rfl := List.mem_singleton.1 hnew
    intro hs
    have hs : h.sender = sender := hs
    -- One handle of the sender before it is enough: it holds the lock or waits for the one that
    -- does.
    have hlocked : l.isLocked sender = true := by
      by_cases hg : h.grip = .held
      · exact isLocked_iff.2 ⟨h, hm, hs, hg⟩
      · rw [← hs]
        exact hl.waits h hm (ho.waiting_of_not_held hm hg)
    exact if_pos hlocked
  · rw [hhandles]
    intro h hm
    rw [List.mem_append, List.mem_singleton] at hm
    rcases hm with hm | rfl
    · exact ho.asked h hm
    · show l.gripOf sender ≠ .taken
      unfold gripOf
      split <;> simp

/-- Handles on other mutexes stay when a mutex is handed on. -/
theorem mem_of_mem_promote (hm : h ∈ promote mutex handles) (hne : h.mutex ≠ mutex) :
    h ∈ handles := by
  induction handles with
  | nil => exact hm
  | cons x rest ih =>
    by_cases hx : x.mutex = mutex ∧ x.grip = .waiting
    · rw [promote, if_pos hx, List.mem_cons] at hm
      rcases hm with rfl | hm
      · exact absurd hx.1 hne
      · exact List.mem_cons_of_mem x hm
    · rw [promote, if_neg hx, List.mem_cons] at hm
      rcases hm with rfl | hm
      · exact List.mem_cons_self
      · exact List.mem_cons_of_mem x (ih hm)

/-- A mutex for which everybody waits is handed on to the first one. -/
theorem pairwise_promote (hbehind : handles.Pairwise Behind)
    (hmutex : ∀ h ∈ handles, h.mutex = mutex ↔ h.sender = sender)
    (hwaits : ∀ h ∈ handles, h.sender = sender → h.grip = .waiting) :
    (promote mutex handles).Pairwise Behind := by
  induction handles with
  | nil => exact .nil
  | cons x rest ih =>
    obtain ⟨hx, hrest⟩ := List.pairwise_cons.1 hbehind
    by_cases hs : x.sender = sender
    · have hfirst : x.mutex = mutex ∧ x.grip = .waiting :=
        ⟨(hmutex x List.mem_cons_self).2 hs, hwaits x List.mem_cons_self hs⟩
      rw [promote, if_pos hfirst]
      exact List.pairwise_cons.2 ⟨hx, hrest⟩
    · have hnot : ¬ (x.mutex = mutex ∧ x.grip = .waiting) := fun h =>
        hs ((hmutex x List.mem_cons_self).1 h.1)
      rw [promote, if_neg hnot]
      refine List.pairwise_cons.2 ⟨?_, ?_⟩
      · -- Whoever is behind `x` is on another mutex, and stays what it was.
        intro y hy heq
        obtain ⟨z, hz, k⟩ := mem_promote hy
        have hne : y.mutex ≠ mutex := by
          intro hy'
          rw [k.mutex_eq, hmutex z (List.mem_cons_of_mem x hz), ← k.sender_eq, ← heq] at hy'
          exact hs hy'
        exact hx y (mem_of_mem_promote hy hne) heq
      · exact ih hrest (fun h hm => hmutex h (List.mem_cons_of_mem x hm))
          fun h hm => hwaits h (List.mem_cons_of_mem x hm)

/-- Giving a handle up leaves the others in order, and if it was the holder the next one in the
queue takes its place. -/
theorem InOrder.drop (ho : l.InOrder) (hl : l.Coherent) (id : Nat) : (l.drop id).InOrder := by
  cases hf : l.find? id with
  | none => exact ho.congr (by simp only [Locks.drop, hf])
  | some h =>
    obtain ⟨hm, rfl⟩ := hl.find?_eq_some.1 hf
    have hrest : ∀ {x}, x ∈ l.handles.filter (fun x => x.id ≠ h.id) →
        x ∈ l.handles ∧ x.id ≠ h.id := fun hx => by simpa using hx
    refine ⟨?_, ?_⟩
    · rw [drop_of_find? hf]
      have hbehind := ho.behind.sublist (List.filter_sublist (p := fun x => x.id ≠ h.id))
      dsimp only
      split
      · -- The lock is handed on; the handle that gives it up is the one all others wait for.
        rename_i hg
        have hmutex : ∀ x ∈ l.handles.filter (fun x => x.id ≠ h.id),
            x.mutex = h.mutex ↔ x.sender = h.sender :=
          fun x hx => hl.mutex_eq_iff (hrest hx).1 hm
        refine pairwise_promote hbehind hmutex ?_
        intro x hx hs
        have hnot := hl.not_held hm hg (hrest hx).1 (hrest hx).2 hs
        exact ho.waiting_of_not_held (hrest hx).1 hnot
      · exact hbehind
    · intro x hx
      obtain ⟨y, hy, -, k⟩ := mem_drop hf hx
      cases k with
      | same => exact ho.asked x hy
      | promoted => simp

end Locks

namespace EngineState

/-- Handles are in the order of their tasks, and locks are in the order of handles. -/
structure InTurn (s : EngineState) : Prop where
  aligned : s.cache.locks.handles.map (·.id) = s.tasks.map (·.handle)
  locks : s.cache.locks.InOrder

variable {e : Engine} {s s' : EngineState} {t u : Task} {a : Action}

theorem inTurn_empty : InTurn {} := ⟨rfl, Locks.inOrder_empty⟩

theorem InTurn.queued {id : Nat} {op : Operation} (hs : s.Sound e) (ht : s.InTurn)
    (htasks : s'.tasks = s.tasks ++ [⟨id, op, s.cache.locks.nextHandle, .queued⟩])
    (hlocks : s'.cache.locks = (s.cache.locks.lock op.sender).1) : s'.InTurn := by
  refine ⟨?_, ?_⟩
  · rw [htasks, hlocks, Locks.lock_handles hs.coherent, List.map_append, List.map_append,
      ht.aligned]
    rfl
  · rw [hlocks]
    exact ht.locks.lock hs.coherent op.sender

theorem InTurn.left {effects : List Effect} (hs : s.Sound e) (hq : s.InTurn)
    (hactor : s.actor? a = some t) (h : e.Left s a t s' effects) : s'.InTurn := by
  have ht := mem_of_actor? hactor
  obtain ⟨own, hown, -⟩ := hs.find?_handle ht
  have hhandles : s'.cache.locks.handles = (s.cache.locks.drop t.handle).handles := by
    rw [h.locks, leave_handles]
  refine ⟨?_, (hq.locks.drop hs.coherent t.handle).congr hhandles⟩
  rw [hhandles, Locks.drop_ids hown, hq.aligned, h.tasks, List.filter_map]
  -- The task is the only one with its handle.
  refine congrArg (List.map _) (List.filter_congr fun u hu => ?_)
  have hsame : u.handle = t.handle ↔ u.id = t.id :=
    ⟨hs.apart u hu t ht, fun hid => congrArg Task.handle (hs.eq_of_id hu ht hid)⟩
  simp only [Function.comp_apply, ne_eq, hsame]

theorem InTurn.step (hs : s.Sound e) (hq : s.InTurn) (a : Action) : (e.step s a).1.InTurn := by
  have h := Engine.transition (e := e) s a
  generalize (e.step s a).1 = s', (e.step s a).2 = effects at h
  cases h with
  | ignored => exact hq
  | queued _ htasks hlocks _ =>
    exact hq.queued hs htasks (by rw [hlocks, Operation.sender_anonymize])
  | called =>
    refine ⟨?_, hq.locks⟩
    -- Entering changes the stage of a task and not its place.
    rw [setStage, List.map_map]
    refine hq.aligned.trans (List.map_congr_left fun u _ => ?_)
    rw [Function.comp_apply]
    split <;> rfl
  | left hactor _ hleft => exact hq.left hs hactor hleft
  | swept now =>
    obtain ⟨-, hhandles, -⟩ := s.cache.sweepAt_spec hs.coherent e.config.retention now
    refine ⟨?_, hq.locks.congr hhandles⟩
    rw [hhandles]
    exact hq.aligned

/-! ### Who holds a lock -/

/-- A task behind another one of its sender does not hold the lock. -/
theorem InTurn.pairwise_tasks (hs : s.Sound e) (hq : s.InTurn) : s.tasks.Pairwise fun t u =>
    t.sender = u.sender → s.cache.locks.holds u.handle = false := by
  -- The order of the handles, said of their numbers, is the order of the tasks.
  have hids : (s.cache.locks.handles.map (·.id)).Pairwise fun i j => ∀ h k,
      s.cache.locks.find? i = some h → s.cache.locks.find? j = some k → h.sender = k.sender →
        s.cache.locks.holds j = false := by
    refine List.pairwise_map.2 (hq.locks.behind.imp_of_mem fun {h k} hm hm' hbehind => ?_)
    intro h' k' hf hf' hsame
    obtain rfl : h' = h := by
      obtain ⟨hm', hid⟩ := hs.coherent.find?_eq_some.1 hf
      exact hs.coherent.eq_of_id hm' hm hid
    have hk : s.cache.locks.find? k.id = some k := hs.coherent.find?_eq_some.2 ⟨hm', rfl⟩
    obtain rfl : k' = k := Option.some.inj (hf'.symm.trans hk)
    rw [Locks.holds, hk, Option.any_some, hbehind hsame]
    rfl
  rw [hq.aligned] at hids
  refine (List.pairwise_map.1 hids).imp_of_mem fun {t u} ht hu h hsame => ?_
  obtain ⟨own, hown, hsender⟩ := hs.find?_handle ht
  obtain ⟨other, hother, hsender'⟩ := hs.find?_handle hu
  exact h own other hown hother (by rw [hsender, hsender', hsame])

/-- The first task of a sender. -/
def first? (s : EngineState) (sender : String) : Option Task :=
  s.tasks.find? fun t => t.sender = sender

theorem first?_eq_none_iff {sender : String} :
    s.first? sender = none ↔ ∀ t ∈ s.tasks, t.sender ≠ sender := by
  simp [first?]

theorem InTurn.first_of_holds (hs : s.Sound e) (hq : s.InTurn) (ht : t ∈ s.tasks)
    (hh : s.cache.locks.holds t.handle = true) : s.first? t.sender = some t := by
  obtain ⟨before, after, htasks⟩ := List.append_of_mem ht
  have hpairs := hq.pairwise_tasks hs
  rw [htasks, List.pairwise_append] at hpairs
  refine List.find?_eq_some_iff_append.2 ⟨by simp, before, after, htasks, ?_⟩
  intro u hu
  have hnot : u.sender ≠ t.sender := by
    intro hsame
    have := hpairs.2.2 u hu t List.mem_cons_self hsame
    rw [hh] at this
    cases this
  simpa using hnot

/-- The first task of a sender holds the lock, and no other one does. -/
theorem InTurn.holds_iff (hs : s.Sound e) (hq : s.InTurn) (ht : t ∈ s.tasks) :
    s.cache.locks.holds t.handle = true ↔ s.first? t.sender = some t := by
  refine ⟨hq.first_of_holds hs ht, fun hfirst => ?_⟩
  obtain ⟨h, hm, hid, hsender, -⟩ := hs.handle t ht
  by_cases hg : h.grip = .held
  · exact hs.coherent.holds_iff.2 ⟨h, hm, hid, hg⟩
  · -- It would wait for somebody who holds the lock and is the first one then.
    have hlocked := hs.coherent.waits h hm (hq.locks.waiting_of_not_held hm hg)
    rw [hsender] at hlocked
    obtain ⟨k, hk, hks, hkg⟩ := Locks.isLocked_iff.1 hlocked
    obtain ⟨u, hu, huk⟩ := hs.owned k hk
    have huh : s.cache.locks.holds u.handle = true :=
      hs.coherent.holds_iff.2 ⟨k, hk, huk.symm, hkg⟩
    obtain ⟨k', hk', hid', hsender', -⟩ := hs.held_handle hu huh
    have hus : u.sender = t.sender := by
      rw [← hsender', hs.coherent.eq_of_id hk' hk (hid'.trans huk), hks]
    have hufirst := hq.first_of_holds hs hu huh
    rw [hus, hfirst] at hufirst
    rw [Option.some.inj hufirst]
    exact huh

end EngineState

namespace Engine

variable (e : Engine)

theorem inTurn_after (actions : List Action) : (e.after actions).InTurn := by
  induction actions using List.reverseRecOn with
  | nil => exact EngineState.inTurn_empty
  | append_singleton l a ih =>
    rw [after_append]
    exact ih.step (e.sound_after l) a

/-- **First come, first served.**  After every run a task holds the lock of its sender just if it is
the first of the sender's tasks in the order in which they began. -/
theorem holds_iff_first (actions : List Action) {t : Task} (ht : t ∈ (e.after actions).tasks) :
    (e.after actions).cache.locks.holds t.handle = true ↔
      (e.after actions).first? t.sender = some t :=
  (e.inTurn_after actions).holds_iff (e.sound_after actions) ht

/-- A lock is held as long as there is anybody who asks for it. -/
theorem isLocked_iff_task (actions : List Action) (sender : String) :
    (e.after actions).cache.locks.isLocked sender = true ↔
      ∃ t ∈ (e.after actions).tasks, t.sender = sender := by
  have hs := e.sound_after actions
  constructor
  · intro hlocked
    obtain ⟨h, hm, rfl, -⟩ := Locks.isLocked_iff.1 hlocked
    obtain ⟨t, ht, hth⟩ := hs.owned h hm
    obtain ⟨own, hown, hid, hsender, -⟩ := hs.handle t ht
    refine ⟨t, ht, ?_⟩
    rw [← hsender, hs.coherent.eq_of_id hown hm (hid.trans hth)]
  · rintro ⟨t, ht, rfl⟩
    -- The first of the sender's tasks has the lock, whether it is `t` or not.
    cases hfirst : (e.after actions).first? t.sender with
    | none => exact absurd rfl (EngineState.first?_eq_none_iff.1 hfirst t ht)
    | some u =>
      have hu := List.mem_of_find?_eq_some hfirst
      have husender : u.sender = t.sender := by simpa using List.find?_some hfirst
      have hholds := (e.holds_iff_first actions hu).2 (by rw [husender]; exact hfirst)
      rw [← husender]
      exact hs.isLocked_of_holds hu hholds

end Engine

end DialogueStore
