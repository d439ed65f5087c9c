/-
The tasks of an engine and the locks of its cache fit each other.

Each task owns one handle on its sender's lock, and nobody else has handles.  A
task that waits for a reply holds the lock, so that there is one such task for a
sender at most, and nothing happens to the sender's entry meanwhile.  `Sound` is
the invariant; `Sound.step` takes it through one action, and `sound_after`
through any list of actions.
-/
import DialogueStore.Proofs.Transition

namespace DialogueStore

namespace Task

/-- Whether the task waits for the reply to a request for this sender. -/
def callsFor (t : Task) (sender : String) : Bool := !t.isQueued && t.sender = sender

theorem callsFor_iff {t : Task} {sender : String} :
    t.callsFor sender = true ↔ t.isQueued = false ∧ t.sender = sender := by
  simp [callsFor]

end Task

namespace EngineState

/-- Each task has its handle on the lock of its sender, and if it waits for a reply it holds it. -/
structure Sound (e : Engine) (s : EngineState) : Prop where
  coherent : s.cache.locks.Coherent
  ids : (s.tasks.map (·.id)).Nodup
  /-- No two tasks share a handle. -/
  apart : ∀ t ∈ s.tasks, ∀ u ∈ s.tasks, t.handle = u.handle → t.id = u.id
  /-- Every handle is a task's. -/
  owned : ∀ h ∈ s.cache.locks.handles, ∃ t ∈ s.tasks, t.handle = h.id
  handle : ∀ t ∈ s.tasks, ∃ h ∈ s.cache.locks.handles,
    h.id = t.handle ∧ h.sender = t.sender ∧ (t.isQueued = false → h.grip = .held)
  /-- The request under way is the one that the task would make now. -/
  calls : ∀ t ∈ s.tasks, ∀ c, t.stage = .calling c →
    e.isTest t.sender = false ∧ c = e.request (s.cache.entry t.sender) t.operation

variable {e : Engine} {s : EngineState} {t u : Task} {a : Action} {id : Nat}

theorem sound_empty : Sound e {} where
  coherent := Locks.coherent_empty
  ids := .nil
  apart := by simp
  owned := by simp
  handle := by simp
  calls := by simp

namespace Sound

theorem eq_of_id (hs : s.Sound e) (ht : t ∈ s.tasks) (hu : u ∈ s.tasks) (hid : t.id = u.id) :
    t = u :=
  List.inj_on_of_nodup_map hs.ids ht hu hid

theorem task?_eq_some (hs : s.Sound e) : s.task? id = some t ↔ t ∈ s.tasks ∧ t.id = id :=
  find?_key_iff hs.ids

theorem find?_handle (hs : s.Sound e) (ht : t ∈ s.tasks) :
    ∃ h, s.cache.locks.find? t.handle = some h ∧ h.sender = t.sender := by
  obtain ⟨h, hm, hid, hsender, -⟩ := hs.handle t ht
  exact ⟨h, hs.coherent.find?_eq_some.2 ⟨hm, hid⟩, hsender⟩

theorem holds_of_calling (hs : s.Sound e) (ht : t ∈ s.tasks) (hq : t.isQueued = false) :
    s.cache.locks.holds t.handle = true := by
  obtain ⟨h, hm, hid, -, hg⟩ := hs.handle t ht
  exact hs.coherent.holds_iff.2 ⟨h, hm, hid, hg hq⟩

/-- A handle that a task holds is on the task's sender. -/
theorem held_handle (hs : s.Sound e) (ht : t ∈ s.tasks)
    (hh : s.cache.locks.holds t.handle = true) :
    ∃ h ∈ s.cache.locks.handles, h.id = t.handle ∧ h.sender = t.sender ∧ h.grip = .held := by
  obtain ⟨h, hm, hid, hsender, -⟩ := hs.handle t ht
  obtain ⟨h', hm', hid', hg⟩ := hs.coherent.holds_iff.1 hh
  obtain rfl := hs.coherent.eq_of_id hm hm' (hid.trans hid'.symm)
  exact ⟨h, hm, hid, hsender, hg⟩

theorem isLocked_of_holds (hs : s.Sound e) (ht : t ∈ s.tasks)
    (hh : s.cache.locks.holds t.handle = true) : s.cache.locks.isLocked t.sender = true := by
  obtain ⟨h, hm, -, hsender, hg⟩ := hs.held_handle ht hh
  exact Locks.isLocked_iff.2 ⟨h, hm, hsender, hg⟩

/-- One task at a time holds the lock of a sender. -/
theorem eq_of_holds (hs : s.Sound e) (ht : t ∈ s.tasks) (hu : u ∈ s.tasks)
    (hth : s.cache.locks.holds t.handle = true) (huh : s.cache.locks.holds u.handle = true)
    (hsender : t.sender = u.sender) : t = u := by
  obtain ⟨h, hm, hid, hhs, hg⟩ := hs.held_handle ht hth
  obtain ⟨h', hm', hid', hhs', hg'⟩ := hs.held_handle hu huh
  have hhid := hs.coherent.exclusive h hm h' hm' hg hg' (by rw [hhs, hhs', hsender])
  exact hs.eq_of_id ht hu (hs.apart t ht u hu (by rw [← hid, ← hid', hhid]))

theorem holds_of_callsFor (hs : s.Sound e) (ht : t ∈ s.tasks) {sender : String}
    (hcalls : t.callsFor sender = true) :
    s.cache.locks.holds t.handle = true ∧ t.sender = sender :=
  ⟨hs.holds_of_calling ht (Task.callsFor_iff.1 hcalls).1, (Task.callsFor_iff.1 hcalls).2⟩

/-- One task at a time waits for a reply for a sender. -/
theorem eq_of_callsFor (hs : s.Sound e) (ht : t ∈ s.tasks) (hu : u ∈ s.tasks) {sender : String}
    (htc : t.callsFor sender = true) (huc : u.callsFor sender = true) : t = u := by
  obtain ⟨hth, hts⟩ := hs.holds_of_callsFor ht htc
  obtain ⟨huh, hus⟩ := hs.holds_of_callsFor hu huc
  exact hs.eq_of_holds ht hu hth huh (hts.trans hus.symm)

/-- Without tasks no lock is held. -/
theorem isLocked_of_no_tasks (hs : s.Sound e) (hnone : s.tasks = []) (sender : String) :
    s.cache.locks.isLocked sender = false := by
  rw [Bool.eq_false_iff]
  intro hl
  obtain ⟨h, hm, -⟩ := Locks.isLocked_iff.1 hl
  obtain ⟨t, ht, -⟩ := hs.owned h hm
  rw [hnone] at ht
  cases ht

/-- A task that an action ends holds its lock, or it leaves its sender's entry alone. -/
theorem holds_or_leave (hs : s.Sound e) (ha : s.actor? a = some t) :
    s.cache.locks.holds t.handle = true ∨ ∀ x, (e.leave x t a).1 = x := by
  cases a with
  | enter id => exact .inl (actor?_enter.1 ha).2.2
  | reply id r =>
    exact .inl (hs.holds_of_calling (mem_of_actor? ha)
      (Task.not_isQueued_of_awaits (actor?_reply.1 ha).2))
  | cancel id => exact .inr fun _ => rfl
  | begin _ _ | sweep _ => cases ha

end Sound

/-! ### What an action makes of the tasks -/

theorem mem_setStage {stage : Stage} : u ∈ (s.setStage id stage).tasks ↔
    ∃ v ∈ s.tasks, { v with stage := if v.id = id then stage else v.stage } = u := by
  have heq : ∀ v : Task, (if v.id = id then { v with stage } else v) =
      { v with stage := if v.id = id then stage else v.stage } := by
    intro v
    split <;> rfl
  simp [setStage, heq]

/-- Whom the stage does not matter for picks the same tasks. -/
theorem filter_setStage (s : EngineState) (id : Nat) (stage : Stage) {p : Task → Bool}
    (hp : ∀ (u : Task) (stage : Stage), p { u with stage } = p u) :
    (s.setStage id stage).tasks.filter p =
      (s.tasks.filter p).map fun u => if u.id = id then { u with stage } else u := by
  rw [setStage, List.filter_map]
  have hsame : p ∘ (fun u : Task => if u.id = id then { u with stage } else u) = p := by
    funext u
    rw [Function.comp_apply]
    split
    · exact hp u stage
    · rfl
  rw [hsame]

theorem setStage_ids (s : EngineState) (id : Nat) (stage : Stage) :
    (s.setStage id stage).tasks.map (·.id) = s.tasks.map (·.id) := by
  rw [setStage, List.map_map]
  refine List.map_congr_left fun v _ => ?_
  rw [Function.comp_apply]
  split <;> rfl

theorem leave_handles {l : Locks} {sender : String} (forget : Bool) :
    ((if forget then l.forgetIfSole sender else l).drop id).handles = (l.drop id).handles := by
  cases forget with
  | true => exact Locks.forgetIfSole_drop_handles l sender id
  | false => rfl

/-! ### The invariant in one step -/

theorem Sound.queued {s' : EngineState} {op : Operation} (hs : s.Sound e) (hid : s.task? id = none)
    (htasks : s'.tasks = s.tasks ++
      [⟨id, op.anonymize e.anonymize, s.cache.locks.nextHandle, .queued⟩])
    (hlocks : s'.cache.locks = (s.cache.locks.lock op.sender).1)
    (hentry : ∀ k, s'.cache.entry k = s.cache.entry k) : s'.Sound e := by
  -- The new task has an id and a handle that no other task has.
  have hfresh : ∀ t ∈ s.tasks, t.id ≠ id := by
    intro t ht hti
    rw [hs.task?_eq_some.2 ⟨ht, hti⟩] at hid
    cases hid
  have hnew : ∀ t ∈ s.tasks, t.handle ≠ s.cache.locks.nextHandle := by
    intro t ht heq
    obtain ⟨h, hm, hid', -⟩ := hs.handle t ht
    have := hs.coherent.id_lt h hm
    omega
  have hhandles : s'.cache.locks.handles = s.cache.locks.handles ++
      [⟨s.cache.locks.nextHandle, op.sender, s.cache.locks.mutexOf op.sender,
        s.cache.locks.gripOf op.sender⟩] := by
    rw [hlocks, Locks.lock_handles hs.coherent]
  refine ⟨hlocks ▸ hs.coherent.lock op.sender, ?_, ?_, ?_, ?_, ?_⟩
  · rw [htasks, List.map_append, List.nodup_append]
    refine ⟨hs.ids, by simp, ?_⟩
    intro i hi j hj
    obtain ⟨t, ht, rfl⟩ := List.mem_map.1 hi
    obtain rfl : j = id := by simpa using hj
    exact hfresh t ht
  · rw [htasks]
    simp only [List.mem_append, List.mem_singleton]
    rintro t (ht | rfl) u (hu | rfl) hh
    · exact hs.apart t ht u hu hh
    · exact absurd hh (hnew t ht)
    · exact absurd hh.symm (hnew u hu)
    · rfl
  · rw [htasks, hhandles]
    simp only [List.mem_append, List.mem_singleton]
    rintro h (hm | rfl)
    · obtain ⟨t, ht, hth⟩ := hs.owned h hm
      exact ⟨t, .inl ht, hth⟩
    · exact ⟨_, .inr rfl, rfl⟩
  · rw [htasks, hhandles]
    simp only [List.mem_append, List.mem_singleton]
    rintro t (ht | rfl)
    · obtain ⟨h, hm, hrest⟩ := hs.handle t ht
      exact ⟨h, .inl hm, hrest⟩
    · refine ⟨_, .inr rfl, rfl, ?_, ?_⟩
      · rw [Task.sender, Operation.sender_anonymize]
      · intro hq
        cases hq
  · rw [htasks]
    simp only [List.mem_append, List.mem_singleton, hentry]
    rintro t (ht | rfl) c hc
    · exact hs.calls t ht c hc
    · cases hc

theorem Sound.called (hs : s.Sound e) (hactor : s.actor? (.enter id) = some t)
    (htest : e.isTest t.sender = false) :
    (s.setStage t.id (.calling (e.request (s.cache.entry t.sender) t.operation))).Sound e := by
  have ht := mem_of_actor? hactor
  have hth := (actor?_enter.1 hactor).2.2
  refine ⟨hs.coherent, by rw [setStage_ids]; exact hs.ids, ?_, ?_, ?_, ?_⟩
  · intro u hu u' hu' hh
    obtain ⟨v, hv, rfl⟩ := mem_setStage.1 hu
    obtain ⟨v', hv', rfl⟩ := mem_setStage.1 hu'
    exact hs.apart v hv v' hv' hh
  · intro h hm
    obtain ⟨u, hu, huh⟩ := hs.owned h hm
    exact ⟨_, mem_setStage.2 ⟨u, hu, rfl⟩, huh⟩
  · intro u hu
    obtain ⟨v, hv, rfl⟩ := mem_setStage.1 hu
    by_cases hvt : v.id = t.id
    · -- The task that called holds the lock, which is what lets it leave the queue.
      obtain rfl := hs.eq_of_id hv ht hvt
      obtain ⟨h, hm, hid, hsender, hg⟩ := hs.held_handle hv hth
      exact ⟨h, hm, hid, hsender, fun _ => hg⟩
    · rw [if_neg hvt]
      exact hs.handle v hv
  · intro u hu d hd
    obtain ⟨v, hv, rfl⟩ := mem_setStage.1 hu
    by_cases hvt : v.id = t.id
    · obtain rfl := hs.eq_of_id hv ht hvt
      rw [if_pos rfl] at hd
      cases hd
      exact ⟨htest, rfl⟩
    · rw [if_neg hvt] at hd
      exact hs.calls v hv d hd

theorem Sound.left {s' : EngineState} {effects : List Effect} (hs : s.Sound e)
    (hactor : s.actor? a = some t) (h : e.Left s a t s' effects) : s'.Sound e := by
  -- `own` is the handle that goes; every other one is kept, held or not.
  have ht := mem_of_actor? hactor
  obtain ⟨own, hown, hsender⟩ := hs.find?_handle ht
  have hhandles : s'.cache.locks.handles = (s.cache.locks.drop t.handle).handles := by
    rw [h.locks, leave_handles]
  have hmem : ∀ {u}, u ∈ s'.tasks ↔ u ∈ s.tasks ∧ u.id ≠ t.id := by
    intro u
    rw [h.tasks, List.mem_filter]
    simp
  refine ⟨?_, ?_, ?_, ?_, ?_, ?_⟩
  · rw [h.locks]
    split
    · exact hsender ▸ hs.coherent.forgetDrop hown
    · exact hs.coherent.drop _
  · rw [h.tasks]
    exact hs.ids.sublist (List.filter_sublist.map _)
  · intro u hu v hv
    exact hs.apart u (hmem.1 hu).1 v (hmem.1 hv).1
  · intro x hx
    rw [hhandles] at hx
    obtain ⟨y, hy, hne, k⟩ := Locks.mem_drop hown hx
    obtain ⟨u, hu, huy⟩ := hs.owned y hy
    refine ⟨u, hmem.2 ⟨hu, fun huid => hne ?_⟩, by rw [k.id_eq, huy]⟩
    rw [← huy, hs.eq_of_id hu ht huid]
  · intro u hu
    obtain ⟨hu, hne⟩ := hmem.1 hu
    obtain ⟨y, hy, hid, hys, hg⟩ := hs.handle u hu
    obtain ⟨x, hx, k⟩ := Locks.drop_of_mem hown hy
      (fun heq => hne (hs.apart u hu t ht (by rw [← hid, heq])))
    -- Another handle may be promoted by the drop, and is never demoted.
    exact ⟨x, hhandles ▸ hx, k.id_eq.trans hid, k.sender_eq.trans hys, fun hq => k.held (hg hq)⟩
  · intro u hu c hc
    obtain ⟨hu, hne⟩ := hmem.1 hu
    -- If the two are on one sender, only `u` holds the lock.
    have hsame : s'.cache.entry u.sender = s.cache.entry u.sender := by
      rw [h.entry]
      split
      · rename_i heq
        rcases hs.holds_or_leave hactor with hh | hleave
        · have hq : u.isQueued = false := by rw [Task.isQueued, hc]
          have := hs.eq_of_holds hu ht (hs.holds_of_calling hu hq) hh heq.symm
          exact absurd (congrArg Task.id this) hne
        · exact hleave _
      · rfl
    rw [hsame]
    exact hs.calls u hu c hc

theorem Sound.swept (hs : s.Sound e) (now : Float) :
    Sound e { s with cache := (s.cache.sweepAt e.config.retention now).1 } := by
  obtain ⟨hcoherent, hhandles, hentry, -⟩ :=
    s.cache.sweepAt_spec hs.coherent e.config.retention now
  refine ⟨hcoherent, hs.ids, hs.apart, ?_, ?_, ?_⟩
  · rw [hhandles]
    exact hs.owned
  · rw [hhandles]
    exact hs.handle
  · intro t ht c hc
    have hq : t.isQueued = false := by rw [Task.isQueued, hc]
    rw [hentry, if_pos (hs.isLocked_of_holds ht (hs.holds_of_calling ht hq))]
    exact hs.calls t ht c hc

/-- The invariant holds after any action. -/
theorem Sound.step (hs : s.Sound e) (a : Action) : (e.step s a).1.Sound e := by
  have h := Engine.transition (e := e) s a
  generalize (e.step s a).1 = s', (e.step s a).2 = effects at h
  cases h with
  | ignored => exact hs
  | queued hid htasks hlocks hentry => exact hs.queued hid htasks hlocks hentry
  | called hactor htest => exact hs.called hactor htest
  | left hactor _ h => exact hs.left hactor h
  | swept now => exact hs.swept now

/-- A task that begins is put behind all others, and it holds its sender's lock if that is free. -/
theorem Sound.begin_task (hs : s.Sound e) (hid : s.task? id = none) (op : Operation) :
    ∃ s' t, e.step s (.begin id op) = (s', []) ∧ s'.Sound e ∧ s'.tasks = s.tasks ++ [t] ∧
      (∀ k, s'.cache.entry k = s.cache.entry k) ∧ t.id = id ∧
      t.operation = op.anonymize e.anonymize ∧ t.stage = .queued ∧ s'.task? id = some t ∧
      s'.cache.locks.holds t.handle = !s.cache.locks.isLocked op.sender := by
  have hsound := hs.step (.begin id op)
  have h := Engine.transition (e := e) s (.begin id op)
  generalize hstep : e.step s (.begin id op) = next at h hsound ⊢
  obtain ⟨s', effects⟩ := next
  cases h with
  | ignored _ hbegin => exact absurd hid (hbegin rfl)
  | left hactor => cases hactor
  | queued _ htasks hlocks hentry =>
    refine ⟨s', _, rfl, hsound, htasks, hentry, rfl, rfl, rfl, ?_, ?_⟩
    · exact hsound.task?_eq_some.2 ⟨htasks ▸ List.mem_append_right _ List.mem_cons_self, rfl⟩
    · -- The lock is its own at once if nobody has it.
      rw [hlocks, hs.coherent.holds_lock]

end EngineState

end DialogueStore
