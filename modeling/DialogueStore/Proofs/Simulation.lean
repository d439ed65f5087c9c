/-
Two engines that are in step for one sender.

An engine is busy with many senders at once.  `Sim` compares it with one that
runs the tasks of a single sender and nothing else: the sender's entries in the
two caches are the same, and the second engine has just the one task of the
sender that waits for a reply, or none.  Each lemma says of one action of the
first engine what the second one has to do to stay in step:

* `Sim.act` — the same, where a task of the sender moves with the lock,
* `Sim.begin_spec` — the beginning as well, where the task enters,
* `Sim.other`, `Sim.begun`, `Sim.dropped` — nothing,
* `Sim.swept` — the same, unless the lock is held.

Design notes: handles are numbered by each engine for itself, so that the tasks
agree in everything but the handle.
-/
import DialogueStore.Proofs.Tasks

namespace DialogueStore

namespace Engine

/-- The state `s` of an engine that serves a sender alone, and the state `c` of one that serves
everybody. -/
structure Sim (sender : String) (s c : EngineState) : Prop where
  entry : s.cache.entry sender = c.cache.entry sender
  matched : ∀ t ∈ s.tasks, t.callsFor sender = true ∧ ∃ n, { t with handle := n } ∈ c.tasks
  covered : ∀ t ∈ c.tasks, t.callsFor sender = true → ∃ n, { t with handle := n } ∈ s.tasks

variable {e : Engine} {sender : String} {s c : EngineState} {a : Action} {t : Task} {id : Nat}

namespace Sim

theorem empty : Sim sender {} {} := ⟨rfl, by simp, by simp⟩

/-- What happens to others does not matter. -/
theorem keep {c' : EngineState} (h : Sim sender s c)
    (hentry : c'.cache.entry sender = c.cache.entry sender)
    (htasks : ∀ u, u.callsFor sender = true → (u ∈ c'.tasks ↔ u ∈ c.tasks)) :
    Sim sender s c' := by
  refine ⟨h.entry.trans hentry.symm, ?_, ?_⟩
  · intro u hu
    obtain ⟨hcalls, n, hn⟩ := h.matched u hu
    exact ⟨hcalls, n, (htasks { u with handle := n } hcalls).2 hn⟩
  · intro u hu hcalls
    exact h.covered u ((htasks u hcalls).1 hu) hcalls

theorem tasks_eq_nil (h : Sim sender s c) (hnone : ∀ u ∈ c.tasks, u.callsFor sender = false) :
    s.tasks = [] := by
  refine List.eq_nil_iff_forall_not_mem.2 fun u hu => ?_
  obtain ⟨hcalls, n, hn⟩ := h.matched u hu
  have hnot := hnone _ hn
  exact absurd (hcalls.symm.trans hnot) (by simp)

/-- The two engines do the same when their tasks do. -/
theorem act {n : Nat} (hc : c.Sound e) (hentry : s.cache.entry sender = c.cache.entry sender)
    (hs : ∀ v ∈ s.tasks, v = { t with handle := n })
    (hcalls : ∀ u ∈ c.tasks, u.callsFor sender = true → u = t) (hsender : t.sender = sender)
    (has : s.actor? a = some { t with handle := n }) (hac : c.actor? a = some t) :
    Sim sender (e.step s a).1 (e.step c a).1 ∧ (e.step s a).2 = (e.step c a).2 := by
  subst hsender
  cases hends : e.ends t a with
  | true =>
    -- What a task leaves depends on the entry, and not on its handle.
    have hl := step_left hac hends
    have hl' := step_left has (e := e) hends
    refine ⟨⟨?_, ?_, ?_⟩, ?_⟩
    · -- The entry is the one both leave alike, and of the sender no task is left in either.
      rw [hl.entry, hl'.entry, ← hentry]
      rfl
    · intro v hv
      rw [hl'.tasks, List.mem_filter] at hv
      obtain rfl := hs v hv.1
      simp at hv
    · intro u hu hcalls'
      rw [hl.tasks, List.mem_filter] at hu
      obtain rfl := hcalls u hu.1 hcalls'
      simp at hu
    · rw [hl.effects_eq, hl'.effects_eq, ← hentry]
      rfl
  | false =>
    obtain ⟨⟨id, rfl⟩, htest⟩ := enter_of_not_ends hac hends
    have ht := EngineState.mem_of_actor? hac
    have hstep : e.step s (.enter id) =
        (s.setStage t.id (.calling (e.request (c.cache.entry t.sender) t.operation)),
          e.announce t.operation ++
            [.call t.id (e.request (c.cache.entry t.sender) t.operation)]) := by
      rw [step_called has htest, ← hentry]
      rfl
    rw [hstep, step_called hac htest]
    refine ⟨⟨hentry, ?_, ?_⟩, rfl⟩
    · intro v' hv'
      obtain ⟨v, hv, rfl⟩ := EngineState.mem_setStage.1 hv'
      obtain rfl := hs v hv
      refine ⟨?_, t.handle, EngineState.mem_setStage.2 ⟨t, ht, rfl⟩⟩
      rw [if_pos rfl]
      exact Task.callsFor_iff.2 ⟨rfl, rfl⟩
    · intro u' hu' hcalls'
      obtain ⟨u, hu, rfl⟩ := EngineState.mem_setStage.1 hu'
      -- The one task that calls for the sender is the one that has just entered.
      have hut : u = t := by
        by_cases hid : u.id = t.id
        · exact hc.eq_of_id hu ht hid
        · rw [if_neg hid] at hcalls'
          exact hcalls u hu hcalls'
      subst hut
      exact ⟨n, EngineState.mem_setStage.2 ⟨_, EngineState.mem_of_actor? has, rfl⟩⟩

/-- A task that begins where no other is under way has the lock. -/
theorem begin_spec (hs : s.Sound e) (hnone : s.tasks = []) (id : Nat) (op : Operation) :
    ∃ n, (e.step s (.begin id op)).1.tasks = [⟨id, op.anonymize e.anonymize, n, .queued⟩] ∧
      (e.step s (.begin id op)).1.actor? (.enter id) =
        some ⟨id, op.anonymize e.anonymize, n, .queued⟩ ∧
      ∀ k, (e.step s (.begin id op)).1.cache.entry k = s.cache.entry k := by
  have hnew : s.task? id = none := by simp [EngineState.task?, hnone]
  obtain ⟨s', t, hbegin, -, htasks, hentry, hid, hop, hstage, ht, hholds⟩ := hs.begin_task hnew op
  have htask : t = ⟨id, op.anonymize e.anonymize, t.handle, .queued⟩ := by
    rw [← hid, ← hop, ← hstage]
  rw [hnone, List.nil_append] at htasks
  rw [hs.isLocked_of_no_tasks hnone op.sender] at hholds
  rw [hbegin]
  exact ⟨t.handle, htask ▸ htasks, htask ▸ EngineState.actor?_enter.2 ⟨ht, hstage, hholds⟩, hentry⟩

/-- Nothing that another sender's task does matters. -/
theorem other (h : Sim sender s c) (hc : c.Sound e) (hactor : c.actor? a = some t)
    (hsender : t.sender ≠ sender) : Sim sender s (e.step c a).1 := by
  have ht := EngineState.mem_of_actor? hactor
  -- The tasks of the sender have other ids than the one that acts.
  have hne : ∀ {u}, u ∈ c.tasks → u.callsFor sender = true → u.id ≠ t.id := by
    intro u hu hcalls hid
    obtain rfl := hc.eq_of_id hu ht hid
    exact hsender (Task.callsFor_iff.1 hcalls).2
  cases hends : e.ends t a with
  | true =>
    have hl := step_left hactor hends
    refine h.keep (by rw [hl.entry, if_neg hsender]) fun u hcalls => ?_
    rw [hl.tasks, List.mem_filter]
    exact ⟨fun hu => hu.1, fun hu => ⟨hu, by simpa using hne hu hcalls⟩⟩
  | false =>
    obtain ⟨⟨id, rfl⟩, htest⟩ := enter_of_not_ends hactor hends
    rw [step_called hactor htest]
    refine h.keep rfl fun u hcalls => ⟨fun hu => ?_, fun hu => ?_⟩
    · obtain ⟨v, hv, rfl⟩ := EngineState.mem_setStage.1 hu
      by_cases hid : v.id = t.id
      · obtain rfl := hc.eq_of_id hv ht hid
        exact absurd (Task.callsFor_iff.1 hcalls).2 hsender
      · rw [if_neg hid]
        exact hv
    · refine EngineState.mem_setStage.2 ⟨u, hu, ?_⟩
      rw [if_neg (hne hu hcalls)]

/-- A new task in the queue does not matter yet. -/
theorem begun (h : Sim sender s c) (id : Nat) (op : Operation) :
    Sim sender s (e.step c (.begin id op)).1 := by
  have hC := transition (e := e) c (.begin id op)
  generalize (e.step c (.begin id op)).1 = c', (e.step c (.begin id op)).2 = effects at hC ⊢
  cases hC with
  | ignored => exact h
  | left hactor => cases hactor
  | queued _ htasks _ hentry =>
    refine h.keep (hentry sender) fun u hcalls => ?_
    rw [htasks, List.mem_append, List.mem_singleton]
    refine ⟨fun hu => hu.resolve_right ?_, .inl⟩
    rintro rfl
    cases hcalls

/-- A task that is dropped in the queue leaves the entry alone. -/
theorem dropped (h : Sim sender s c) (hc : c.Sound e) (hactor : c.actor? (.cancel id) = some t)
    (hq : t.isQueued = true) : Sim sender s (e.step c (.cancel id)).1 := by
  have hl := step_left hactor (e := e) rfl
  refine h.keep (by rw [hl.entry]; split <;> rfl) fun u hcalls => ?_
  rw [hl.tasks, List.mem_filter]
  refine ⟨fun hu => hu.1, fun hu => ⟨hu, ?_⟩⟩
  have hne : u.id ≠ t.id := by
    intro hid
    obtain rfl := hc.eq_of_id hu (EngineState.mem_of_actor? hactor) hid
    rw [(Task.callsFor_iff.1 hcalls).1] at hq
    cases hq
  simpa using hne

/-- A sender that no task calls for has no task in the serial engine. -/
theorem tasks_eq_nil_of_not_isLocked (h : Sim sender s c) (hc : c.Sound e)
    (hfree : c.cache.locks.isLocked sender = false) : s.tasks = [] := by
  refine h.tasks_eq_nil fun u hu => ?_
  rw [Bool.eq_false_iff]
  intro hcalls
  obtain ⟨hh, hsender⟩ := hc.holds_of_callsFor hu hcalls
  have hlocked := hc.isLocked_of_holds hu hh
  rw [hsender, hfree] at hlocked
  cases hlocked

theorem swept (h : Sim sender s c) (hs : s.Sound e) (hc : c.Sound e) (now : Float) :
    Sim sender (if c.cache.locks.isLocked sender then s else (e.step s (.sweep now)).1)
      (e.step c (.sweep now)).1 := by
  obtain ⟨-, -, hentry, -⟩ := c.cache.sweepAt_spec hc.coherent e.config.retention now
  -- The serial engine sweeps only when the lock is free; otherwise the sweep leaves the entry
  -- anyway.
  cases hfree : c.cache.locks.isLocked sender with
  | true =>
    rw [if_pos rfl]
    exact h.keep (by rw [step]; simp [hentry, hfree]) fun u _ => .rfl
  | false =>
    obtain ⟨-, -, hentry', -⟩ := s.cache.sweepAt_spec hs.coherent e.config.retention now
    have hfree' := hs.isLocked_of_no_tasks (h.tasks_eq_nil_of_not_isLocked hc hfree) sender
    rw [if_neg (by simp)]
    refine ⟨?_, h.matched, h.covered⟩
    simp [step, hentry, hentry', hfree, hfree', h.entry]

/-- The task that calls for the sender is the only one in the serial engine. -/
theorem calling (h : Sim sender s c) (hs : s.Sound e) (hc : c.Sound e) (ht : t ∈ c.tasks)
    (hcalls : t.callsFor sender = true) : ∃ n, s.task? t.id = some { t with handle := n } ∧
      (∀ v ∈ s.tasks, v = { t with handle := n }) ∧
      ∀ u ∈ c.tasks, u.callsFor sender = true → u = t := by
  obtain ⟨n, hn⟩ := h.covered t ht hcalls
  refine ⟨n, hs.task?_eq_some.2 ⟨hn, rfl⟩, fun v hv => ?_, fun u hu hu' => ?_⟩
  · exact hs.eq_of_callsFor hv hn (h.matched v hv).1 hcalls
  · exact hc.eq_of_callsFor hu ht hu' hcalls

/-- While a task enters, no other one calls for the sender. -/
theorem entering (hc : c.Sound e) (hactor : c.actor? (.enter id) = some t)
    (hsender : t.sender = sender) : ∀ u ∈ c.tasks, u.callsFor sender = false := by
  obtain ⟨ht, hq, hh⟩ := EngineState.actor?_enter.1 hactor
  intro u hu
  rw [Bool.eq_false_iff]
  intro hcalls
  obtain ⟨huh, hus⟩ := hc.holds_of_callsFor hu hcalls
  obtain rfl := hc.eq_of_holds hu (EngineState.mem_of_task? ht) huh hh (hus.trans hsender.symm)
  simp [Task.callsFor, Task.isQueued, hq] at hcalls

end Sim

end Engine

end DialogueStore
