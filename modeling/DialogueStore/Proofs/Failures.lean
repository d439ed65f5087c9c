/-
What a failure of the remote store changes.

No caller is told that a request has failed.  A save has cached its record and answers
with its events whatever comes of the write, so the reply decides about the cursor and
nothing else; a retrieve whose fetch fails is the same as one for which the remote store
has nothing.  Each statement here is about two runs that are the same up to the reply.

* `Engine.seenOf` — what others see of a task, from its beginning on,
* `Engine.save_reply` — a save with all replies that its write can have,
* `Engine.fetch_failed` — a retrieve whose fetch fails,
* `Engine.failures_leave_no_trace` — the two together, and the saves that write nothing.
-/
import DialogueStore.Proofs.Cancellation

namespace DialogueStore

namespace EngineState

variable {s : EngineState} {t : Task} {c : Call} {id : Nat} {r : Record} {sender : String}

/-- A save with its request under way takes any reply to a write. -/
theorem actor?_written (ht : s.task? id = some t) (hstage : t.stage = .calling c)
    (hop : t.operation = .save r) (reply : WriteReply) :
    s.actor? (.reply id (.written reply)) = some t := by
  have hawaits : t.awaits (.written reply) = true := by simp only [Task.awaits, hstage, hop]
  exact actor?_reply.2 ⟨ht, hawaits⟩

/-- A retrieve with its request under way takes any reply to a fetch. -/
theorem actor?_fetched (ht : s.task? id = some t) (hstage : t.stage = .calling c)
    (hop : t.operation = .retrieve sender) (reply : FetchReply) :
    s.actor? (.reply id (.fetched reply)) = some t := by
  have hawaits : t.awaits (.fetched reply) = true := by simp only [Task.awaits, hstage, hop]
  exact actor?_reply.2 ⟨ht, hawaits⟩

end EngineState

namespace Engine

variable (e : Engine)

/-- What others see of the latest task of an id, from its beginning on. -/
def seenOf (id : Nat) (actions : List Action) : List Effect :=
  (e.stepsBy id actions).flatMap e.effects

variable {e} {past : List Action} {a : Action} {t : Task} {c : Call} {id : Nat} {r : Record}
  {sender : String}

/-- A task is the operation that was begun under its id. -/
theorem operation_of_begun {op : Operation} (ht : (e.after past).task? id = some t)
    (hbegun : e.begun past id = some op) : t.operation = op.anonymize e.anonymize := by
  obtain ⟨op', hop', hanon⟩ := e.begun_of_task past (EngineState.mem_of_task? ht)
  rw [EngineState.id_of_task? ht, hbegun] at hop'
  obtain rfl := Option.some.inj hop'
  exact hanon.symm

/-- To what others have heard of a task, it adds what it does next. -/
theorem seenOf_of_actor (hactor : (e.after past).actor? a = some t) :
    e.seenOf t.id (past ++ [a]) = e.heard t ++ (e.step (e.after past) a).2 := by
  have hunderway := underway_after past (EngineState.mem_of_actor? hactor)
  rw [seenOf, stepsBy_of_actor hactor, List.flatMap_append, hunderway.heard,
    List.flatMap_singleton]
  rfl

/-! ### Saves -/

/-- What is left when a save ends and its write has failed. -/
def unacknowledged (s : EngineState) (t : Task) (r : Record) : EngineState :=
  { s.removeTask t.id with cache := (s.cache.put .normal r.senderId r).unlock t.handle }

/-- A save of a test sender answers at once, and caches its record apart from all others. -/
theorem save_entered (hactor : (e.after past).actor? (.enter id) = some t)
    (hop : t.operation = .save r) (htest : e.isTest r.senderId = true) :
    e.seenOf id (past ++ [Action.enter id]) = [.done id (.saved r.events)] ∧
    (e.after (past ++ [Action.enter id])).cache =
      { (e.after past).cache with
        test := (e.after past).cache.test.insert r.senderId r
        locks := (e.after (past ++ [Action.enter id])).cache.locks } := by
  obtain ⟨ht, hq, -⟩ := EngineState.actor?_enter.1 hactor
  have hid := EngineState.id_of_task? ht
  have hstep : e.step (e.after past) (.enter id) = e.enterSave (e.after past) t r := by
    rw [step_enter hactor, hop]
  have hseen := seenOf_of_actor hactor
  rw [hid, heard, hq, hstep, enterSave, if_pos htest, hid] at hseen
  refine ⟨hseen, ?_⟩
  rw [after_append, hstep, enterSave, if_pos htest]
  rfl

/-- Any other task goes on to its request. -/
theorem task?_entered (hactor : (e.after past).actor? (.enter id) = some t)
    (htest : e.isTest t.sender = false) :
    (e.after (past ++ [Action.enter id])).task? id = some { t with
      stage := .calling (e.request ((e.after past).cache.entry t.sender) t.operation) } := by
  have hid := EngineState.id_of_task? (EngineState.actor?_enter.1 hactor).1
  refine (e.sound_after (past ++ [Action.enter id])).task?_eq_some.2 ⟨?_, hid⟩
  rw [after_append, step_called hactor htest]
  refine EngineState.mem_setStage.2 ⟨t, EngineState.mem_of_actor? hactor, ?_⟩
  rw [if_pos rfl]

/-- **The reply to a write decides about the cursor alone.**  A save has published its record and
made its request when the reply comes, and it answers with its events whatever the reply is.  All
failures leave the same state, in which the record is cached and the cursors are as they were, and
an acknowledgement leaves this state with the sender's cursor replaced. -/
theorem save_reply (ht : (e.after past).task? id = some t) (hstage : t.stage = .calling c)
    (hop : t.operation = .save r) :
    (∀ reply, e.seenOf id (past ++ [Action.reply id (.written reply)]) =
      e.announce (.save r) ++ [.call id c, .done id (.saved r.events)]) ∧
    (∀ error, e.after (past ++ [Action.reply id (.written (.error error))]) =
      unacknowledged (e.after past) t r) ∧
    ∀ cursor, e.after (past ++ [Action.reply id (.written (.ok cursor))]) =
      { unacknowledged (e.after past) t r with
        cache := (unacknowledged (e.after past) t r).cache.setCursor r.senderId
          cursor.toCursor } := by
  have hactor := EngineState.actor?_written ht hstage hop
  have hstep : ∀ reply, e.step (e.after past) (.reply id (.written reply)) =
      finishSave (e.after past) t r reply := fun reply => step_written (hactor reply) hop
  have hid := EngineState.id_of_task? ht
  refine ⟨fun reply => ?_, fun error => ?_, fun cursor => ?_⟩
  · -- All but the last effect has been seen before the reply came.
    have hseen := seenOf_of_actor (hactor reply)
    have hheard : e.heard t = e.announce (.save r) ++ [.call id c] := by
      rw [heard, hstage, hop, hid]
    rw [hid, hheard, hstep, List.append_assoc] at hseen
    rw [hseen, ← hid]
    rfl
  · rw [after_append, hstep]
    rfl
  · -- The cursor is replaced before the record is cached, which makes no difference.
    rw [after_append, hstep]
    rfl

/-! ### Retrieves -/

/-- **A failed fetch is like one that finds nothing.**  A retrieve answers with the cached copy
then, and what is cached stays. -/
theorem fetch_failed (ht : (e.after past).task? id = some t) (hstage : t.stage = .calling c)
    (hop : t.operation = .retrieve sender) {reply : FetchReply}
    (hreply : reply = .ok none ∨ ∃ error, reply = .error error) :
    e.seenOf id (past ++ [Action.reply id (.fetched reply)]) =
      [.call id c, .done id (.retrieved ((e.after past).cache.get? .normal sender))] ∧
    e.after (past ++ [Action.reply id (.fetched reply)]) =
      { (e.after past).removeTask id with
        cache := (e.after past).cache.release sender t.handle } := by
  have hactor := EngineState.actor?_fetched ht hstage hop reply
  have hid := EngineState.id_of_task? ht
  have hstep : e.step (e.after past) (.reply id (.fetched reply)) =
      ({ (e.after past).removeTask id with
          cache := (e.after past).cache.release sender t.handle },
        [.done id (.retrieved ((e.after past).cache.get? .normal sender))]) := by
    rw [step_fetched hactor hop, ← hid]
    -- Neither of the replies brings a snapshot, and nothing else of them is looked at.
    rcases hreply with rfl | ⟨error, rfl⟩
    · rfl
    · rfl
  -- The task has been heard with its request before.
  have hheard : e.heard t = [.call id c] := by
    rw [heard, hstage, hop, hid]
    rfl
  refine ⟨?_, ?_⟩
  · have hseen := seenOf_of_actor hactor
    rw [hid, hheard, hstep] at hseen
    exact hseen
  · rw [after_append, hstep]

/-- **Failures of the remote store leave no trace.**  Let a task be under way in any run.  If it
saves a record of a test sender, it answers with the anonymized events and caches the record once it
has the lock, and nothing else is ever seen of it.  If it saves another record it makes its request,
and whatever the reply is, the same broadcast and request have been seen of it, one at most and one,
and it answers with the anonymized events; all failures lead to one state, in which the record is
cached and no cursor has changed, and an acknowledgement leads to that state with the sender's
cursor replaced.  If the task waits for the reply to its fetch, all failures lead to the state that
comes of an empty answer, in which everything is cached as before, and the answer is the cached
copy. -/
theorem failures_leave_no_trace (ht : (e.after past).task? id = some t) :
    let before := (e.after past).cache
    (∀ r, e.begun past id = some (.save r) →
      let stored := r.anonymize e.anonymize
      ((e.after past).actor? (.enter id) = some t → e.isTest r.senderId = true →
        e.seenOf id (past ++ [Action.enter id]) = [.done id (.saved stored.events)] ∧
        ∃ locks : Locks, (e.after (past ++ [Action.enter id])).cache =
          { before with test := before.test.insert r.senderId stored, locks }) ∧
      ((e.after past).actor? (.enter id) = some t → e.isTest r.senderId = false →
        (e.after (past ++ [Action.enter id])).task? id =
          some { t with stage := .calling (e.writeCall before stored) }) ∧
      ∀ c, t.stage = .calling c →
        e.isTest r.senderId = false ∧ c = e.writeCall before stored ∧
        (∀ reply : WriteReply, e.seenOf id (past ++ [Action.reply id (.written reply)]) =
          (if e.broadcasts then [.publish r.senderId stored.events] else []) ++
            [.call id c, .done id (.saved stored.events)]) ∧
        ∃ failed : EngineState,
          (∀ error, e.after (past ++ [Action.reply id (.written (.error error))]) = failed) ∧
          (∀ cursor : RemoteCursor, e.after (past ++ [Action.reply id (.written (.ok cursor))]) =
            { failed with cache := failed.cache.setCursor r.senderId cursor.toCursor }) ∧
          ∃ locks : Locks, failed.cache =
            { before with normal := before.normal.insert r.senderId stored, locks }) ∧
    ∀ sender, e.begun past id = some (.retrieve sender) → ∀ c, t.stage = .calling c →
      ∃ failed : EngineState,
        (∀ error, e.after (past ++ [Action.reply id (.fetched (.error error))]) = failed) ∧
        e.after (past ++ [Action.reply id (.fetched (.ok none))]) = failed ∧
        (∃ locks : Locks, failed.cache = { before with locks }) ∧
        ∀ reply : FetchReply, reply = .ok none ∨ (∃ error, reply = .error error) →
          e.seenOf id (past ++ [Action.reply id (.fetched reply)]) =
            [.call id c, .done id (.retrieved (before.get? .normal sender))] := by
  intro before
  refine ⟨fun r hbegun => ?_, fun sender hbegun c hstage => ?_⟩
  · intro stored
    have hop : t.operation = .save stored := operation_of_begun ht hbegun
    have hsender : t.sender = stored.senderId := sender_of_save hop
    have hcall : e.request (before.entry t.sender) t.operation = e.writeCall before stored := by
      rw [hop, writeCall_eq, hsender]
    refine ⟨fun hactor htest => ?_, fun hactor htest => ?_, fun c hstage => ?_⟩
    · obtain ⟨hseen, hcache⟩ := save_entered hactor hop htest
      exact ⟨hseen, _, hcache⟩
    · rw [← hcall]
      exact task?_entered hactor (hsender ▸ htest)
    · obtain ⟨hseen, hfailed, hok⟩ := save_reply ht hstage hop
      -- What was requested is what would be requested now, since the sender has been locked.
      have hcalls := (e.sound_after past).calls t (EngineState.mem_of_task? ht) c hstage
      exact ⟨hsender ▸ hcalls.1, hcalls.2.trans hcall, hseen, _, hfailed, hok, _, rfl⟩
  · have hop : t.operation = .retrieve sender := operation_of_begun ht hbegun
    have hempty := fetch_failed ht hstage hop (.inl rfl)
    have hfailed := fun error => fetch_failed ht hstage hop (.inr ⟨error, rfl⟩)
    exact ⟨_, fun error => (hfailed error).2, hempty.2, ⟨_, rfl⟩,
      fun reply hreply => (fetch_failed ht hstage hop hreply).1⟩

/-! ### A first save -/

/-- A save that waits for the reply to its write. -/
def firstSave : List Action := [.begin 0 (.save (conversation [1])), .enter 0]

/-- It has been published and sent when the reply comes, and it makes no difference in which way the
write fails. -/
theorem failures_leave_no_trace_firstSave :
    (∀ reply, heardEngine.seenOf 0 (firstSave ++ [Action.reply 0 (.written reply)]) =
      [.publish "ann" (conversation [1]).events,
        .call 0 (.insert (heardEngine.writeRequest "ann" (conversation [1]))),
        .done 0 (.saved (conversation [1]).events)]) ∧
    heardEngine.after (firstSave ++ [Action.reply 0 (.written (.error (.timeout 30)))]) =
      heardEngine.after (firstSave ++ [Action.reply 0 (.written (.error (.status 500 "")))]) := by
  have ht : (heardEngine.after firstSave).task? 0 = some ⟨0, .save (conversation [1]), 0,
      .calling (.insert (heardEngine.writeRequest "ann" (conversation [1])))⟩ := rfl
  obtain ⟨hsave, -⟩ := failures_leave_no_trace ht
  obtain ⟨-, -, hwaits⟩ := hsave (conversation [1]) rfl
  obtain ⟨-, -, hseen, failed, hfailed, -, -⟩ := hwaits _ rfl
  exact ⟨hseen, (hfailed (.timeout 30)).trans (hfailed (.status 500 "")).symm⟩

end Engine

end DialogueStore
