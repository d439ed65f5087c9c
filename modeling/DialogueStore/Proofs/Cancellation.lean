/-
Dropping a task where it waits.

A caller may go away while its operation waits for the lock or for a reply, and its
task is dropped then.  Until a task leaves it does two things at most: it takes a
place in the queue, and it makes its request.  Neither shows in the cache, and so
there is nothing to undo.

* `Engine.stepsBy` — the steps of a task from its beginning on,
* `EngineState.Beside` — a step of a task that leaves everything cached as it is,
* `Engine.underway_after` — what the steps of a task have come to as long as it waits,
* `Engine.cancel_atomic` — what is left of a task that is dropped.
-/
import DialogueStore.Proofs.Delivery
import DialogueStore.Proofs.Turns

namespace DialogueStore

namespace EngineState

/-- A step of a task that concerns nobody else: the same is cached for everybody, the other tasks
and the locks of other senders stay as they are. -/
structure Beside (id : Nat) (sender : String) (s s' : EngineState) : Prop where
  entry : ∀ k, s'.cache.entry k = s.cache.entry k
  tasks : (s'.tasks.filter fun u => u.id ≠ id) = s.tasks.filter fun u => u.id ≠ id
  mutexes : ∀ k ≠ sender, s'.cache.locks.entries.get? k = s.cache.locks.entries.get? k
  handles : (s'.cache.locks.handles.filter fun h => h.sender ≠ sender) =
    s.cache.locks.handles.filter fun h => h.sender ≠ sender

variable {e : Engine} {s s' : EngineState} {t : Task} {id : Nat}

/-- A new task takes its place in the queue. -/
theorem beside_queued {op : Operation} (hs : s.Sound e)
    (htasks : s'.tasks = s.tasks ++
      [⟨id, op.anonymize e.anonymize, s.cache.locks.nextHandle, .queued⟩])
    (hlocks : s'.cache.locks = (s.cache.locks.lock op.sender).1)
    (hentry : ∀ k, s'.cache.entry k = s.cache.entry k) : Beside id op.sender s s' := by
  refine ⟨hentry, ?_, ?_, ?_⟩
  · rw [htasks, List.filter_append]
    simp
  · intro k hk
    rw [hlocks, Locks.lock_get?, if_neg (Ne.symm hk)]
  · rw [hlocks, Locks.lock_handles hs.coherent, List.filter_append]
    simp

/-- A task makes its request. -/
theorem beside_setStage (s : EngineState) (id : Nat) (sender : String) (stage : Stage) :
    Beside id sender s (s.setStage id stage) := by
  refine ⟨fun _ => rfl, ?_, fun _ _ => rfl, rfl⟩
  rw [filter_setStage _ _ _ fun _ _ => rfl]
  -- Whoever is not `id` is mapped to itself.
  refine (List.map_congr_left fun u hu => ?_).trans (List.map_id _)
  have hne : u.id ≠ id := by simpa using (List.mem_filter.1 hu).2
  exact if_neg hne

/-- A task is dropped. -/
theorem beside_cancel (hs : s.Sound e) (ht : s.task? id = some t) :
    Beside id t.sender s (e.step s (.cancel id)).1 := by
  have hleft := Engine.step_cancel_left (e := e) ht
  have hid := id_of_task? ht
  have hlocks : (e.step s (.cancel id)).1.cache.locks = s.cache.locks.drop t.handle := by
    rw [hleft.locks]
    rfl
  obtain ⟨own, hown, hsender⟩ := hs.find?_handle (mem_of_task? ht)
  refine ⟨?_, ?_, ?_, ?_⟩
  · intro k
    rw [hleft.entry]
    split <;> rfl
  · rw [hleft.tasks, hid, List.filter_filter]
    simp
  · intro k _
    rw [hlocks, Locks.drop_entries]
  · rw [hlocks, ← hsender]
    exact hs.coherent.drop_others hown

end EngineState

namespace Engine

variable (e : Engine)

/-- Takes note of the steps of a task, from its beginning on. -/
def noteStep (id : Nat) (steps : List Moment) (m : Moment) : List Moment :=
  match m.action with
  | .begin i _ => if i = id ∧ (e.after m.past).task? i = none then [m] else steps
  | _ => if (e.actor? m).any fun t => t.id = id then steps ++ [m] else steps

/-- The steps of the latest task of an id. -/
def stepsBy (id : Nat) (actions : List Action) : List Moment :=
  (moments actions).foldl (e.noteStep id) []

/-- What others have seen of a task that waits: nothing if it is queued, and what is published with
its request otherwise. -/
def heard (t : Task) : List Effect :=
  match t.stage with
  | .queued => []
  | .calling c => e.announce t.operation ++ [.call t.id c]

/-- A moment that leaves everything cached as it is. -/
def Quiet (id : Nat) (sender : String) (m : Moment) : Prop :=
  (e.after m.past).Beside id sender (e.step (e.after m.past) m.action).1

/-- What a task under way has done so far: it has begun, and unless it is queued it has made its
request. -/
structure Underway (l : List Action) (t : Task) : Prop where
  actions : ∃ op, op.anonymize e.anonymize = t.operation ∧
    (e.stepsBy t.id l).map (·.action) =
      .begin t.id op :: if t.isQueued then [] else [.enter t.id]
  quiet : ∀ m ∈ e.stepsBy t.id l, e.Quiet t.id t.sender m
  heard : (e.stepsBy t.id l).flatMap e.effects = e.heard t

variable {e} {l past : List Action} {a : Action} {t : Task} {id : Nat}

/-! ### The steps of a task -/

theorem stepsBy_append (id : Nat) (l : List Action) (a : Action) :
    e.stepsBy id (l ++ [a]) = e.noteStep id (e.stepsBy id l) ⟨l, a⟩ := by
  simp [stepsBy]

/-- The first step of a task is that it begins. -/
theorem stepsBy_begin {op : Operation} (hid : (e.after l).task? id = none) :
    e.stepsBy id (l ++ [.begin id op]) = [⟨l, .begin id op⟩] := by
  rw [stepsBy_append]
  exact if_pos ⟨rfl, hid⟩

theorem stepsBy_of_actor (hactor : (e.after l).actor? a = some t) :
    e.stepsBy t.id (l ++ [a]) = e.stepsBy t.id l ++ [⟨l, a⟩] := by
  have hany : ((e.actor? ⟨l, a⟩).any fun u => u.id = t.id) = true := by
    rw [actor?, hactor]
    simp
  rw [stepsBy_append]
  cases a with
  | begin _ _ | sweep _ => cases hactor
  | enter _ | reply _ _ | cancel _ => exact if_pos hany

/-- The steps of others, and sweeps, are not among the steps of a task. -/
theorem stepsBy_of_other (hactor : ∀ u, (e.after l).actor? a = some u → u.id ≠ id)
    (hbegin : ∀ op, a = .begin id op → (e.after l).task? id ≠ none) :
    e.stepsBy id (l ++ [a]) = e.stepsBy id l := by
  have hany : ¬ ((e.actor? ⟨l, a⟩).any fun u => u.id = id) = true := by
    intro h
    obtain ⟨u, hu, hid⟩ := Option.any_eq_true _ _ |>.1 h
    exact hactor u hu (by simpa using hid)
  rw [stepsBy_append]
  cases a with
  | begin i op =>
    refine if_neg ?_
    rintro ⟨rfl, hnone⟩
    exact hbegin op rfl hnone
  | enter _ | reply _ _ | cancel _ => exact if_neg hany
  | sweep _ => rfl

/-! ### A task that waits -/

/-- A task that has begun has made one step. -/
theorem underway_begin {op : Operation} {handle : Nat} (hid : (e.after l).task? id = none)
    (hbeside : (e.after l).Beside id op.sender (e.step (e.after l) (.begin id op)).1)
    (hsilent : (e.step (e.after l) (.begin id op)).2 = []) :
    e.Underway (l ++ [.begin id op]) ⟨id, op.anonymize e.anonymize, handle, .queued⟩ := by
  have hsteps : e.stepsBy id (l ++ [.begin id op]) = [⟨l, .begin id op⟩] := stepsBy_begin hid
  refine ⟨⟨op, rfl, ?_⟩, ?_, ?_⟩
  · rw [hsteps]
    rfl
  · rw [hsteps, List.forall_mem_singleton, Quiet, Task.sender, Operation.sender_anonymize]
    exact hbeside
  · rw [hsteps, List.flatMap_singleton]
    exact hsilent

/-- A task with the lock makes its request, and has made one step more. -/
theorem Underway.called (h : e.Underway l t) (hactor : (e.after l).actor? (.enter id) = some t)
    (htest : e.isTest t.sender = false) : e.Underway (l ++ [.enter id])
      { t with stage := .calling (e.request ((e.after l).cache.entry t.sender) t.operation) } := by
  obtain ⟨htask, hq, -⟩ := EngineState.actor?_enter.1 hactor
  obtain rfl := EngineState.id_of_task? htask
  have hsteps := stepsBy_of_actor hactor
  have hstep := step_called hactor htest
  have hqueued : t.isQueued = true := by rw [Task.isQueued, hq]
  obtain ⟨op, hop, hactions⟩ := h.actions
  refine ⟨⟨op, hop, ?_⟩, ?_, ?_⟩
  · rw [hsteps, List.map_append, hactions, hqueued]
    rfl
  · rw [hsteps, List.forall_mem_append, List.forall_mem_singleton]
    refine ⟨h.quiet, ?_⟩
    rw [Quiet, hstep]
    exact EngineState.beside_setStage _ _ _ _
  · have hheard : e.heard t = [] := by rw [Engine.heard, hq]
    rw [hsteps, List.flatMap_append, h.heard, hheard, List.flatMap_singleton, effects, hstep]
    rfl

/-- The steps of others are nothing to a task. -/
theorem Underway.keep (h : e.Underway l t) (hsteps : e.stepsBy t.id (l ++ [a]) = e.stepsBy t.id l) :
    e.Underway (l ++ [a]) t :=
  ⟨hsteps.symm ▸ h.actions, hsteps.symm ▸ h.quiet, hsteps.symm ▸ h.heard⟩

/-- **A task that waits has changed nothing.**  Its steps so far are that it began, and that it made
its request if it does not wait for the lock any more, and each of them is quiet. -/
theorem underway_after (actions : List Action) (ht : t ∈ (e.after actions).tasks) :
    e.Underway actions t := by
  induction actions using List.reverseRecOn generalizing t with
  | nil => cases ht
  | append_singleton l a ih =>
    have hs := e.sound_after l
    rw [after_append] at ht
    have h := transition (e := e) (e.after l) a
    generalize hs' : (e.step (e.after l) a).1 = s', heff : (e.step (e.after l) a).2 = effects at h ht
    -- What is said of a task is told by its own steps, so that only these matter.
    cases h with
    | ignored hactor hbegin =>
      refine (ih ht).keep (stepsBy_of_other ?_ ?_)
      · intro u hu
        rw [hactor] at hu
        cases hu
      · exact fun op ha => hbegin ha
    | @queued id op _ hid htasks hlocks hentry =>
      rw [htasks, List.mem_append, List.mem_singleton] at ht
      rcases ht with ht | rfl
      · -- A new task has an id that no other one has.
        refine (ih ht).keep (stepsBy_of_other ?_ ?_)
        · intro u hu
          cases hu
        · rintro op' ⟨⟩ hnone
          rw [hs.task?_eq_some.2 ⟨ht, rfl⟩] at hnone
          cases hnone
      · refine underway_begin hid ?_ heff
        rw [hs']
        exact EngineState.beside_queued hs htasks hlocks hentry
    | @called id u hactor htest =>
      obtain ⟨v, hv, rfl⟩ := EngineState.mem_setStage.1 ht
      have hu := EngineState.mem_of_actor? hactor
      by_cases hid : v.id = u.id
      · obtain rfl := hs.eq_of_id hv hu hid
        rw [if_pos rfl]
        exact (ih hv).called hactor htest
      · rw [if_neg hid]
        refine (ih hv).keep (stepsBy_of_other ?_ ?_)
        · intro w hw
          rw [hactor] at hw
          cases hw
          exact Ne.symm hid
        · intro op ha
          cases ha
    | @left _ u _ _ hactor _ hleft =>
      -- The task that left is not this one, as this one is still there.
      rw [hleft.tasks, List.mem_filter] at ht
      have hne : t.id ≠ u.id := by simpa using ht.2
      refine (ih ht.1).keep (stepsBy_of_other ?_ ?_)
      · intro w hw
        rw [hactor] at hw
        cases hw
        exact Ne.symm hne
      · rintro op rfl
        cases hactor
    | swept now =>
      refine (ih ht).keep (stepsBy_of_other ?_ ?_)
      · intro u hu
        cases hu
      · intro op ha
        cases ha

/-! ### A task that is dropped -/

/-- The tasks that a dropped one leaves behind. -/
theorem tasks_cancel (ht : (e.after past).task? id = some t) :
    (e.after (past ++ [.cancel id])).tasks = (e.after past).tasks.filter fun u => u.id ≠ id := by
  rw [after_append, (step_cancel_left (e := e) ht).tasks, EngineState.id_of_task? ht]

/-- The handle of a dropped task is gone. -/
theorem handle_cancel (ht : (e.after past).task? id = some t) :
    ∀ h ∈ (e.after (past ++ [.cancel id])).cache.locks.handles, h.id ≠ t.handle := by
  intro h hm heq
  obtain ⟨u, hu, huh⟩ := (e.sound_after (past ++ [.cancel id])).owned h hm
  rw [tasks_cancel ht, List.mem_filter] at hu
  have hne : u.id ≠ id := by simpa using hu.2
  have hsame := (e.sound_after past).apart u hu.1 t (EngineState.mem_of_task? ht) (huh.trans heq)
  exact hne (hsame.trans (EngineState.id_of_task? ht))

/-- A sender without handles and with nothing cached loses its lock in a sweep. -/
theorem get?_locks_sweep {sender : String} (now : Float)
    (hidle : ∀ h ∈ (e.after l).cache.locks.handles, h.sender ≠ sender)
    (hempty : ((e.after l).cache.entry sender).isEmpty = true) :
    (e.after (l ++ [.sweep now])).cache.locks.entries.get? sender = none := by
  have hcoherent := (e.sound_after l).coherent
  rw [after_append]
  refine Cache.get?_locks_sweepAt _ hcoherent e.config.retention now hidle ?_
  obtain ⟨-, -, hentry, -⟩ := (e.after l).cache.sweepAt_spec hcoherent e.config.retention now
  rw [hentry, Entry.sweep_of_isEmpty hempty, ite_self]
  exact hempty

/-- **Dropping a task is atomic.**  Let a task be dropped while it waits for its sender's lock or for
a reply.  Its steps, from its beginning up to and including the drop, are as few as they can be,
and each of them leaves everything cached, the tasks of others and their locks as they are; what
others have seen of them is the broadcast and the request, if they have been made.  Afterwards the
task and its handle are gone, and the sender is locked only if another task of it is left, of which
the first one has the lock then.  What may stay is an entry in the lock map, and any later sweep at
which the sender has no handle removes it if nothing is cached for the sender. -/
theorem cancel_atomic (ht : (e.after past).task? id = some t) :
    let dropped := past ++ [.cancel id]
    (∃ op, op.anonymize e.anonymize = t.operation ∧
      (e.stepsBy id dropped).map (·.action) =
        .begin id op :: (if t.isQueued then [] else [.enter id]) ++ [.cancel id]) ∧
    (∀ m ∈ e.stepsBy id dropped, e.Quiet id t.sender m) ∧
    (e.stepsBy id dropped).flatMap e.effects = e.heard t ∧
    (e.after dropped).tasks = ((e.after past).tasks.filter fun u => u.id ≠ id) ∧
    (∀ h ∈ (e.after dropped).cache.locks.handles, h.id ≠ t.handle) ∧
    ((e.after dropped).cache.locks.isLocked t.sender = true ↔
      ∃ u ∈ (e.after dropped).tasks, u.sender = t.sender) ∧
    (∀ u, (e.after dropped).first? t.sender = some u →
      (e.after dropped).cache.locks.holds u.handle = true) ∧
    ∀ later now, (∀ h ∈ (e.after (dropped ++ later)).cache.locks.handles, h.sender ≠ t.sender) →
      ((e.after (dropped ++ later)).cache.entry t.sender).isEmpty = true →
      (e.after (dropped ++ later ++ [.sweep now])).cache.locks.entries.get? t.sender = none := by
  intro dropped
  obtain rfl := EngineState.id_of_task? ht
  -- Until it is dropped, the task is under way, and dropping it is its last step.
  have hunderway := underway_after past (EngineState.mem_of_task? ht)
  have hsteps : e.stepsBy t.id dropped = e.stepsBy t.id past ++ [⟨past, .cancel t.id⟩] :=
    stepsBy_of_actor ht
  refine ⟨?_, ?_, ?_, tasks_cancel ht, handle_cancel ht, isLocked_iff_task e dropped _, ?_, ?_⟩
  · obtain ⟨op, hop, hactions⟩ := hunderway.actions
    refine ⟨op, hop, ?_⟩
    rw [hsteps, List.map_append, hactions]
    rfl
  · rw [hsteps, List.forall_mem_append, List.forall_mem_singleton]
    exact ⟨hunderway.quiet, EngineState.beside_cancel (e.sound_after past) ht⟩
  · have hsilent : e.effects ⟨past, .cancel t.id⟩ = [] :=
      (step_cancel_left (e := e) ht).effects_eq
    rw [hsteps, List.flatMap_append, hunderway.heard, List.flatMap_singleton, hsilent,
      List.append_nil]
  · -- Whoever is first now has the lock, since it was passed on in this step.
    intro u hu
    have hmem := List.mem_of_find?_eq_some hu
    have hsender : u.sender = t.sender := by simpa using List.find?_some hu
    rw [holds_iff_first e dropped hmem, hsender]
    exact hu
  · exact fun later now hidle hempty => get?_locks_sweep now hidle hempty

/-! ### Two tasks, one of which is dropped -/

/-- A save that waits for its reply, and a retrieve of the same sender behind it. -/
def retrieveBehindSave : List Action :=
  [.begin 0 (.save (conversation [1])), .begin 1 (.retrieve "ann"), .enter 0]

/-- The lock passes to the retrieve when the save is dropped, and nothing is cached.  When the
retrieve is dropped as well, the lock's entry stays until the next sweep. -/
theorem cancel_atomic_retrieveBehindSave :
    (plainEngine.after (retrieveBehindSave ++ [.cancel 0])).cache.locks.holds 1 = true ∧
    (plainEngine.after (retrieveBehindSave ++ [.cancel 0, .cancel 1])).cache.locks.size = 1 ∧
    (plainEngine.after (retrieveBehindSave ++ [.cancel 0] ++ [.cancel 1] ++
      [.sweep 5])).cache.locks.entries.get? "ann" = none := by
  have ht : (plainEngine.after retrieveBehindSave).task? 0 = some ⟨0, .save (conversation [1]), 0,
      .calling (.insert (plainEngine.writeRequest "ann" (conversation [1])))⟩ := rfl
  have hdropped := cancel_atomic ht
  obtain ⟨-, -, -, -, -, -, hfirst, hswept⟩ := hdropped
  refine ⟨hfirst ⟨1, .retrieve "ann", 1, .queued⟩ rfl, rfl, ?_⟩
  have hidle : (plainEngine.after (retrieveBehindSave ++ [.cancel 0] ++
      [.cancel 1])).cache.locks.handles = [] := rfl
  refine hswept [.cancel 1] 5 ?_ rfl
  rw [hidle]
  exact nofun

end Engine

end DialogueStore
