/-
Operations on one sender are serializable.

In a run of an engine the tasks of all senders are mixed up with each other and
with sweeps.  For each sender there is a run of that sender's tasks alone, one
after another, that leaves the same entry in the cache and shows the same
requests and outcomes in the same order:

* `Engine.turn` — what one action of the run contributes to the serial one,
* `Engine.serial` — the serial run,
* `Engine.call_mem_shownAt` — what is shown of a sender has all requests for it, and no others,
* `Engine.serializable` — the two agree.

Design notes: a task enters the serial run when it goes on with the lock in its
hands, and its beginning is put just before; a sweep is left out where it found
the lock held.  The two runs are then in step in the sense of `Sim`.
-/
import DialogueStore.Proofs.History
import DialogueStore.Proofs.Simulation

namespace DialogueStore

namespace Engine

variable (e : Engine)

/-- What others see of a sender's tasks at a moment; nothing that is asked of the remote store for the
sender is left out (`call_mem_shownAt`). -/
def shownAt (sender : String) (m : Moment) : List Effect :=
  if (e.actor? m).any fun t => t.sender = sender then e.effects m else []

/-- What others see of a sender's tasks: its requests and what its operations answer. -/
def shown (sender : String) (actions : List Action) : List Effect :=
  (moments actions).flatMap (e.shownAt sender)

/-- What is left of an action of the sender's task `t`.  Going on with the lock brings the beginning
along, and a task that is dropped in the queue leaves no trace. -/
def turnOf (m : Moment) (t : Task) : List Action :=
  match m.action with
  | .enter id => (e.begun m.past id).toList.map (.begin id) ++ [.enter id]
  | .cancel id => if t.isQueued then [] else [.cancel id]
  | a => [a]

/-- What an action contributes to the serial run of a sender. -/
def turn (sender : String) (m : Moment) : List Action :=
  match e.actor? m with
  | some t => if t.sender = sender then e.turnOf m t else []
  | none =>
    match m.action with
    | .sweep now => if (e.after m.past).cache.locks.isLocked sender then [] else [.sweep now]
    | _ => []

/-- The run of a sender's tasks one after another, in the order in which they went on with the lock,
each sweep that found the lock free at its place. -/
def serial (sender : String) (actions : List Action) : List Action :=
  (moments actions).flatMap (e.turn sender)

/-- All tasks are the sender's, and none begins while another one is under way. -/
def IsSerial (sender : String) (actions : List Action) : Prop :=
  ∀ m ∈ moments actions, ∀ id op, m.action = .begin id op →
    op.sender = sender ∧ (e.after m.past).tasks = []

variable {e} {sender : String} {a : Action} {t : Task} {id : Nat}

/-! ### The two runs in step -/

@[simp] theorem shown_append (l : List Action) (a : Action) :
    e.shown sender (l ++ [a]) = e.shown sender l ++ e.shownAt sender ⟨l, a⟩ := by
  simp [shown]

theorem serial_append (l : List Action) (a : Action) :
    e.serial sender (l ++ [a]) = e.serial sender l ++ e.turn sender ⟨l, a⟩ := by
  simp [serial]

theorem IsSerial.append {l : List Action} (h : e.IsSerial sender l)
    (hbegin : ∀ id op, a = .begin id op → op.sender = sender ∧ (e.after l).tasks = []) :
    e.IsSerial sender (l ++ [a]) := by
  intro m hm
  rw [moments_append, List.mem_append, List.mem_singleton] at hm
  rcases hm with hm | rfl
  · exact h m hm
  · exact hbegin

theorem shownAt_of_actor {l : List Action} (hactor : (e.after l).actor? a = some t) :
    e.shownAt sender ⟨l, a⟩ = if t.sender = sender then (e.step (e.after l) a).2 else [] := by
  simp [shownAt, actor?, hactor, effects]

theorem shownAt_of_none {l : List Action} (hactor : (e.after l).actor? a = none) :
    e.shownAt sender ⟨l, a⟩ = [] := by
  simp [shownAt, actor?, hactor]

/-- Every request for the sender is among what is shown, and no other one is. -/
theorem call_mem_shownAt {m : Moment} {c : Call} (hcall : .call id c ∈ e.effects m) :
    .call id c ∈ e.shownAt sender m ↔ c.senderId = sender := by
  obtain ⟨t, hactor, -, rfl⟩ := request_of_call hcall
  have hsender : (e.request ((e.after m.past).cache.entry t.sender) t.operation).senderId =
      t.sender := senderId_request _ _
  rw [shownAt_of_actor hactor, hsender]
  split
  · exact iff_of_true hcall ‹_›
  · exact iff_of_false List.not_mem_nil ‹_›

variable (e) in
/-- What the serial run `p` has in common with the run `l`. -/
structure Follows (sender : String) (p l : List Action) : Prop where
  sim : Sim sender (e.after p) (e.after l)
  shown : e.shown sender p = e.shown sender l
  serial : e.IsSerial sender p

namespace Follows

variable {p l : List Action}

theorem skip (h : e.Follows sender p l) (hsim : Sim sender (e.after p) (e.step (e.after l) a).1)
    (hshown : e.shownAt sender ⟨l, a⟩ = []) : e.Follows sender p (l ++ [a]) := by
  refine ⟨by rwa [after_append], ?_, h.serial⟩
  rw [shown_append, hshown, List.append_nil, h.shown]

/-- The sender's task that waits for a reply moves in both runs. -/
theorem move (h : e.Follows sender p l) (hactor : (e.after l).actor? a = some t)
    (hcalls : t.callsFor sender = true)
    (hactor' : ∀ n, (e.after p).task? t.id = some { t with handle := n } →
      (e.after p).actor? a = some { t with handle := n }) :
    e.Follows sender (p ++ [a]) (l ++ [a]) := by
  have ht := EngineState.mem_of_actor? hactor
  -- The serial run has the same task under a handle of its own.
  obtain ⟨n, htask, hp, hl⟩ := h.sim.calling (e.sound_after p) (e.sound_after l) ht hcalls
  have hsender := (Task.callsFor_iff.1 hcalls).2
  obtain ⟨hsim, heffects⟩ := Sim.act (e.sound_after l) h.sim.entry hp hl hsender
    (hactor' n htask) hactor
  refine ⟨by rwa [after_append, after_append], ?_, h.serial.append ?_⟩
  · rw [shown_append, shown_append, h.shown, shownAt_of_actor hactor,
      shownAt_of_actor (hactor' n htask), heffects]
    rfl
  · rintro _ _ rfl
    cases hactor

/-- A task goes on with the lock, and the serial run lets it begin just before. -/
theorem enter (h : e.Follows sender p l) (hactor : (e.after l).actor? (.enter id) = some t)
    (hsender : t.sender = sender) : e.Follows sender
      (p ++ ((e.begun l id).toList.map (.begin id) ++ [.enter id])) (l ++ [.enter id]) := by
  obtain ⟨htask, hq, -⟩ := EngineState.actor?_enter.1 hactor
  obtain rfl := EngineState.id_of_task? htask
  obtain ⟨op, hbegun, hop⟩ := e.begun_of_task l (EngineState.mem_of_actor? hactor)
  -- The lock is the task's, so that the serial engine is idle and gives it the lock as well.
  have hidle := Sim.entering (e.sound_after l) hactor hsender
  have hnone := h.sim.tasks_eq_nil hidle
  obtain ⟨n, htasks, hactor', hentry⟩ := Sim.begin_spec (e.sound_after p) hnone t.id op
  have htn : (⟨t.id, op.anonymize e.anonymize, n, .queued⟩ : Task) = { t with handle := n } := by
    rw [hop, ← hq]
  rw [htn] at htasks hactor'
  -- Begun just now, the task enters in both runs and makes the same request.
  obtain ⟨hsim, heffects⟩ := Sim.act (e.sound_after l)
    ((hentry sender).trans h.sim.entry) (by simp [htasks])
    (fun u hu hcalls => absurd (hcalls.symm.trans (hidle u hu)) (by simp)) hsender hactor' hactor
  have hturn : p ++ ((e.begun l t.id).toList.map (.begin t.id) ++ [.enter t.id]) =
      (p ++ [.begin t.id op]) ++ [.enter t.id] := by
    simp [hbegun]
  have hstart : e.IsSerial sender (p ++ [.begin t.id op]) := by
    refine h.serial.append ?_
    rintro _ _ ⟨⟩
    exact ⟨by rw [← hsender, Task.sender, ← hop, Operation.sender_anonymize], hnone⟩
  rw [hturn]
  rw [← after_append] at hactor' hsim heffects
  refine ⟨by simpa only [after_append] using hsim, ?_, hstart.append (by simp)⟩
  rw [shown_append, shown_append, shown_append, h.shown, shownAt_of_none rfl, List.append_nil,
    shownAt_of_actor hactor, shownAt_of_actor hactor', heffects]
  rfl

/-- Where no task moves, only a sweep matters. -/
theorem idle (h : e.Follows sender p l) (hactor : (e.after l).actor? a = none) :
    e.Follows sender (p ++ e.turn sender ⟨l, a⟩) (l ++ [a]) := by
  cases a with
  | begin id op =>
    have hturn : e.turn sender ⟨l, .begin id op⟩ = [] := rfl
    rw [hturn, List.append_nil]
    exact h.skip (h.sim.begun id op) (shownAt_of_none hactor)
  | sweep now =>
    have hturn : e.turn sender ⟨l, .sweep now⟩ =
      if (e.after l).cache.locks.isLocked sender then [] else [.sweep now] := rfl
    have hswept := h.sim.swept (e.sound_after p) (e.sound_after l) now
    rw [hturn]
    split
    · -- While a task of the sender holds the lock, the sweep passes it by and has no turn.
      rename_i hlocked
      rw [if_pos hlocked] at hswept
      rw [List.append_nil]
      exact h.skip hswept (shownAt_of_none hactor)
    · rename_i hfree
      rw [if_neg hfree] at hswept
      refine ⟨by rwa [after_append, after_append], ?_, h.serial.append (by simp)⟩
      rw [shown_append, shown_append, shownAt_of_none rfl, shownAt_of_none rfl, h.shown]
  | enter _ | reply _ _ | cancel _ =>
    -- Nobody acts: the step changes nothing.
    have hstep := step_of_actor_none (e := e) hactor (by simp) (by simp)
    rw [turn, actor?, hactor, List.append_nil]
    exact h.skip (by rw [hstep]; exact h.sim) (shownAt_of_none hactor)

/-- Where a task of the sender moves, the serial run has it move as well, unless it is dropped in
the queue. -/
theorem own (h : e.Follows sender p l) (hactor : (e.after l).actor? a = some t)
    (hsender : t.sender = sender) :
    e.Follows sender (p ++ e.turn sender ⟨l, a⟩) (l ++ [a]) := by
  have hturn : e.turn sender ⟨l, a⟩ = e.turnOf ⟨l, a⟩ t := by
    simp [turn, actor?, hactor, hsender]
  rw [hturn]
  cases a with
  | begin _ _ | sweep _ => cases hactor
  | enter id => exact h.enter hactor hsender
  | reply id r =>
    obtain ⟨htask, hw⟩ := EngineState.actor?_reply.1 hactor
    obtain rfl := EngineState.id_of_task? htask
    exact h.move hactor (Task.callsFor_iff.2 ⟨Task.not_isQueued_of_awaits hw, hsender⟩)
      fun n hn => EngineState.actor?_reply.2 ⟨hn, hw⟩
  | cancel id =>
    obtain rfl := EngineState.id_of_task? hactor
    rw [turnOf]
    dsimp only
    split
    · -- Cancelled in the queue it has not had its turn, and never will.
      rename_i hq
      rw [List.append_nil]
      have hsilent : (e.step (e.after l) (.cancel t.id)).2 = [] :=
        (step_left hactor rfl).effects_eq
      refine h.skip (h.sim.dropped (e.sound_after l) hactor hq) ?_
      rw [shownAt_of_actor hactor, hsilent, ite_self]
    · rename_i hq
      exact h.move hactor (Task.callsFor_iff.2 ⟨by simpa using hq, hsender⟩) fun n hn => hn

/-- The runs stay in step whatever is done next. -/
theorem snoc (h : e.Follows sender p l) (a : Action) :
    e.Follows sender (p ++ e.turn sender ⟨l, a⟩) (l ++ [a]) := by
  cases hactor : (e.after l).actor? a with
  | none => exact h.idle hactor
  | some t =>
    by_cases hsender : t.sender = sender
    · exact h.own hactor hsender
    · have hturn : e.turn sender ⟨l, a⟩ = [] := by
        simp [turn, actor?, hactor, hsender]
      rw [hturn, List.append_nil]
      exact h.skip (h.sim.other (e.sound_after l) hactor hsender)
        (by rw [shownAt_of_actor hactor, if_neg hsender])

end Follows

variable (e)

theorem follows_serial (sender : String) (actions : List Action) :
    e.Follows sender (e.serial sender actions) actions := by
  induction actions using List.reverseRecOn with
  | nil => exact ⟨Sim.empty, rfl, by simp [IsSerial, serial, moments, momentsFrom]⟩
  | append_singleton l a ih =>
    rw [serial_append]
    exact ih.snoc a

/-- **Operations on one sender are serializable.**  Whatever is mixed in a run, each sender's entry
in the cache, its requests and its outcomes are those of its tasks one after another, in the order
in which they went on with the lock, with the same replies, and with each sweep that found the lock
free at its place. -/
theorem serializable (actions : List Action) (sender : String) :
    e.IsSerial sender (e.serial sender actions) ∧
    (e.after (e.serial sender actions)).cache.entry sender =
      (e.after actions).cache.entry sender ∧
    e.shown sender (e.serial sender actions) = e.shown sender actions := by
  obtain ⟨hsim, hshown, hserial⟩ := e.follows_serial sender actions
  exact ⟨hserial, hsim.entry, hshown⟩

end Engine

end DialogueStore
