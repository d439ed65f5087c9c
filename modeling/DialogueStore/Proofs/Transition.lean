/-
What an action can do to an engine.

`Engine.step` is written for running.  For proving, `Transition` lists the five
things that can come of an action: it is ignored, a task is queued, a task goes
on to its request, a task leaves, or the cache is swept.  A task that leaves
changes one entry of the cache, its own sender's, and what it makes of it
(`Engine.leave`) depends on that entry alone.

* `Engine.step_called`, `Engine.step_left` — what a task does that can move,
* `Engine.step_of_actor_none` — what happens where none can,
* `Engine.transition` — the five cases together.

Nothing after this file opens the definition of a step.
-/
import DialogueStore.Engine.Basic
import DialogueStore.Proofs.Sweep

namespace DialogueStore

namespace Operation

@[simp] theorem sender_anonymize (f : String → String) (op : Operation) :
    (op.anonymize f).sender = op.sender := by
  cases op <;> rfl

end Operation

namespace Task

def sender (t : Task) : String := t.operation.sender

def isQueued (t : Task) : Bool :=
  match t.stage with
  | .queued => true
  | .calling _ => false

/-- Whether a reply is of the kind that the task waits for. -/
def awaits (t : Task) (r : Reply) : Bool :=
  match t.stage, t.operation, r with
  | .calling _, .save _, .written _ => true
  | .calling _, .retrieve _, .fetched _ => true
  | _, _, _ => false

theorem not_isQueued_of_awaits {t : Task} {r : Reply} (h : t.awaits r = true) :
    t.isQueued = false := by
  obtain ⟨id, op, handle, stage⟩ := t
  cases stage with
  | queued => simp [awaits] at h
  | calling c => rfl

/-- Whether the task gives up the lock's entry with the lock if nothing is cached.  A retrieve does
when it ends by itself. -/
def releases (t : Task) : Action → Bool
  | .cancel _ => false
  | _ =>
    match t.operation with
    | .retrieve _ => true
    | .save _ => false

end Task

/-- The sender that a request is for. -/
def Call.senderId : Call → String
  | .fetch r => r.senderId
  | .insert r => r.senderId
  | .update r => r.senderId

namespace EngineState

/-- The task that an action moves, if it can. -/
def actor? (s : EngineState) : Action → Option Task
  | .enter id => (s.task? id).filter fun t => t.isQueued && s.cache.locks.holds t.handle
  | .reply id r => (s.task? id).filter fun t => t.awaits r
  | .cancel id => s.task? id
  | _ => none

variable {s : EngineState} {t : Task} {id : Nat}

theorem id_of_task? (ht : s.task? id = some t) : t.id = id := by
  simpa using List.find?_some ht

theorem mem_of_task? (ht : s.task? id = some t) : t ∈ s.tasks := List.mem_of_find?_eq_some ht

theorem actor?_enter : s.actor? (.enter id) = some t ↔
    s.task? id = some t ∧ t.stage = .queued ∧ s.cache.locks.holds t.handle = true := by
  simp only [actor?, Option.filter_eq_some_iff, Bool.and_eq_true, Task.isQueued]
  cases t.stage <;> simp

theorem actor?_reply {r : Reply} : s.actor? (.reply id r) = some t ↔
    s.task? id = some t ∧ t.awaits r = true := by
  rw [actor?, Option.filter_eq_some_iff]

theorem mem_of_actor? {a : Action} (ha : s.actor? a = some t) : t ∈ s.tasks := by
  cases a with
  | enter id => exact mem_of_task? (actor?_enter.1 ha).1
  | reply id r => exact mem_of_task? (actor?_reply.1 ha).1
  | cancel id => exact mem_of_task? ha
  | begin _ _ | sweep _ => cases ha

end EngineState

namespace Engine

variable (e : Engine)

/-- The request of an operation. -/
def request (x : Entry) : Operation → Call
  | .save r =>
    if x.normal.isSome then
      .update (e.writeRequest r.senderId
        (r.withEvents (r.eventsAfter x.lastCursor.lastTimestamp)))
    else .insert (e.writeRequest r.senderId r)
  | .retrieve sender => .fetch (e.fetchRequest sender x.lastCursor)

/-- What is published when an operation goes on to its request. -/
def announce : Operation → List Effect
  | .save r => if e.broadcasts then [.publish r.senderId r.events] else []
  | .retrieve _ => []

/-- What an operation on a test sender makes of the entry, and its outcome. -/
def performLocally (x : Entry) : Operation → Entry × Outcome
  | .save r => ({ x with test := some r }, .saved r.events)
  | .retrieve _ => (x, .retrieved x.test)

/-- What an operation makes of the entry with the reply to its request, and its outcome. -/
def conclude (x : Entry) : Operation → Reply → Entry × Outcome
  | .save r, .written (.ok cursor) =>
    ({ x with normal := some r, cursor := some cursor.toCursor }, .saved r.events)
  | .save r, _ => ({ x with normal := some r }, .saved r.events)
  | .retrieve sender, .fetched (.ok (some snapshot)) =>
    let merged := Record.merge sender x.normal snapshot.tracker e.config.maxEvents.toNat
    ({ x with normal := some merged, cursor := some snapshot.cursor }, .retrieved (some merged))
  | .retrieve _, _ => (x, .retrieved x.normal)

/-- What a task that an action ends makes of its sender's entry, and what others see of it. -/
def leave (x : Entry) (t : Task) : Action → Entry × List Effect
  | .enter _ => ((performLocally x t.operation).1, [.done t.id (performLocally x t.operation).2])
  | .reply _ r => ((e.conclude x t.operation r).1, [.done t.id (e.conclude x t.operation r).2])
  | _ => (x, [])

/-- Whether an action ends the task that it moves. -/
def ends (t : Task) : Action → Bool
  | .enter _ => e.isTest t.sender
  | _ => true

/-- What becomes of a state when an action ends a task: the task goes with its handle, and its
sender's entry is what it leaves. -/
structure Left (s : EngineState) (a : Action) (t : Task) (s' : EngineState)
    (effects : List Effect) : Prop where
  tasks : s'.tasks = s.tasks.filter fun u => u.id ≠ t.id
  locks : s'.cache.locks =
    (if t.releases a && (e.leave (s.cache.entry t.sender) t a).1.isEmpty
      then s.cache.locks.forgetIfSole t.sender else s.cache.locks).drop t.handle
  entry : ∀ k, s'.cache.entry k =
    if t.sender = k then (e.leave (s.cache.entry k) t a).1 else s.cache.entry k
  effects_eq : effects = (e.leave (s.cache.entry t.sender) t a).2

/-- What can come of an action. -/
inductive Transition (s : EngineState) : Action → EngineState → List Effect → Prop
  /-- There is no place for the action. -/
  | ignored {a : Action} (hactor : s.actor? a = none)
      (hbegin : ∀ {id op}, a = .begin id op → s.task? id ≠ none)
      (hsweep : ∀ {now}, a ≠ .sweep now) : Transition s a s []
  /-- A new task asks for its sender's lock. -/
  | queued {id : Nat} {op : Operation} {s' : EngineState} (hid : s.task? id = none)
      (htasks : s'.tasks = s.tasks ++
        [⟨id, op.anonymize e.anonymize, s.cache.locks.nextHandle, .queued⟩])
      (hlocks : s'.cache.locks = (s.cache.locks.lock op.sender).1)
      (hentry : ∀ k, s'.cache.entry k = s.cache.entry k) :
      Transition s (.begin id op) s' []
  /-- A task with the lock goes on to its request. -/
  | called {id : Nat} {t : Task} (hactor : s.actor? (.enter id) = some t)
      (htest : e.isTest t.sender = false) :
      Transition s (.enter id)
        (s.setStage t.id (.calling (e.request (s.cache.entry t.sender) t.operation)))
        (e.announce t.operation ++
          [.call t.id (e.request (s.cache.entry t.sender) t.operation)])
  /-- A task leaves. -/
  | left {a : Action} {t : Task} {s' : EngineState} {effects : List Effect}
      (hactor : s.actor? a = some t) (hends : e.ends t a = true)
      (h : e.Left s a t s' effects) : Transition s a s' effects
  /-- The cache is swept. -/
  | swept (now : Float) :
      Transition s (.sweep now) { s with cache := (s.cache.sweepAt e.config.retention now).1 }
        [.swept (s.cache.sweepAt e.config.retention now).2]

variable {e} {s : EngineState} {t : Task} {id : Nat} {r : Record} {sender : String}

theorem senderId_request (x : Entry) (op : Operation) :
    (e.request x op).senderId = op.sender := by
  cases op with
  | save r => rw [request]; split <;> rfl
  | retrieve sender => rfl

/-! ### The ways in which a task moves -/

theorem sender_of_save (hop : t.operation = .save r) : t.sender = r.senderId := by
  rw [Task.sender, hop, Operation.sender]

theorem sender_of_retrieve (hop : t.operation = .retrieve sender) : t.sender = sender := by
  rw [Task.sender, hop, Operation.sender]

theorem writeCall_eq (c : Cache) : e.writeCall c r = e.request (c.entry r.senderId) (.save r) := by
  rw [writeCall, Cache.contains_eq, Cache.cursor_eq]
  rfl

theorem enterSave_left (hop : t.operation = .save r) (htest : e.isTest r.senderId = true) :
    e.Left s (.enter id) t (e.enterSave s t r).1 (e.enterSave s t r).2 := by
  rw [enterSave, if_pos htest]
  refine ⟨rfl, ?_, fun k => ?_, ?_⟩
  · simp [Task.releases, hop]
  · rw [Cache.entry_unlock, Cache.entry_put, sender_of_save hop]
    simp only [leave, performLocally, hop]
    rfl
  · rw [leave, hop, performLocally]

theorem enterSave_called (htest : e.isTest r.senderId = false) : e.enterSave s t r =
    (s.setStage t.id (.calling (e.request (s.cache.entry r.senderId) (.save r))),
      e.announce (.save r) ++ [.call t.id (e.request (s.cache.entry r.senderId) (.save r))]) := by
  rw [enterSave, if_neg (by simp [htest]), writeCall_eq]
  rfl

theorem enterRetrieve_left (hop : t.operation = .retrieve sender)
    (htest : e.isTest sender = true) :
    e.Left s (.enter id) t (e.enterRetrieve s t sender).1 (e.enterRetrieve s t sender).2 := by
  rw [enterRetrieve, if_pos htest]
  refine ⟨rfl, ?_, fun k => ?_, ?_⟩
  · rw [Cache.release_locks, sender_of_retrieve hop]
    simp [Task.releases, hop, leave, performLocally]
  · simp [leave, performLocally, hop]
  · rw [leave, hop, performLocally, sender_of_retrieve hop, Cache.get?_eq]
    rfl

theorem enterRetrieve_called (htest : e.isTest sender = false) : e.enterRetrieve s t sender =
    (s.setStage t.id (.calling (e.request (s.cache.entry sender) (.retrieve sender))),
      e.announce (.retrieve sender) ++
        [.call t.id (e.request (s.cache.entry sender) (.retrieve sender))]) := by
  rw [enterRetrieve, if_neg (by simp [htest]), Cache.cursor_eq]
  rfl

theorem finishSave_left (hop : t.operation = .save r) (reply : WriteReply) :
    e.Left s (.reply id (.written reply)) t (finishSave s t r reply).1
      (finishSave s t r reply).2 := by
  refine ⟨rfl, ?_, fun k => ?_, ?_⟩
  · cases reply <;> simp [finishSave, Task.releases, hop]
  · rw [finishSave.eq_def, Cache.entry_unlock, Cache.entry_put, sender_of_save hop]
    by_cases hk : r.senderId = k
    · cases reply <;> simp [hk, leave, conclude, hop, Cache.entry_setCursor, Entry.setRecord]
    · cases reply <;> simp [hk, Cache.entry_setCursor]
  · cases reply <;> simp [finishSave, leave, conclude, hop]

/-- What a fetch leaves in the cache is what it makes of one entry. -/
theorem entry_absorb (c : Cache) (reply : FetchReply) (k : String) :
    (e.absorb c sender reply).1.entry k =
      if sender = k then (e.conclude (c.entry k) (.retrieve sender) (.fetched reply)).1
      else c.entry k := by
  by_cases hk : sender = k
  · subst hk
    rcases reply with _ | (_ | snapshot)
    · simp [absorb, conclude]
    · simp [absorb, conclude]
    · simp [absorb, conclude, Cache.entry_put, Cache.entry_setCursor, Entry.setRecord,
        Cache.get?_eq, Entry.record]
  · rcases reply with _ | (_ | snapshot) <;>
      simp [absorb, hk, Cache.entry_put, Cache.entry_setCursor]

theorem absorb_locks (c : Cache) (reply : FetchReply) :
    (e.absorb c sender reply).1.locks = c.locks := by
  rcases reply with _ | (_ | snapshot) <;> simp [absorb]

theorem absorb_snd (c : Cache) (reply : FetchReply) :
    Outcome.retrieved (e.absorb c sender reply).2 =
      (e.conclude (c.entry sender) (.retrieve sender) (.fetched reply)).2 := by
  rcases reply with _ | (_ | snapshot) <;> simp [absorb, conclude, Cache.get?_eq, Entry.record]

theorem finishRetrieve_left (hop : t.operation = .retrieve sender) (reply : FetchReply) :
    e.Left s (.reply id (.fetched reply)) t (e.finishRetrieve s t sender reply).1
      (e.finishRetrieve s t sender reply).2 := by
  have hs := sender_of_retrieve hop
  refine ⟨rfl, ?_, fun k => ?_, ?_⟩
  · rw [finishRetrieve, Cache.release_locks, entry_absorb, absorb_locks, hs]
    simp [Task.releases, hop, leave]
  · rw [finishRetrieve, Cache.entry_release, entry_absorb, hs, leave, hop]
  · rw [leave, hop, hs, ← absorb_snd]
    rfl

/-! ### One step -/

theorem step_enter (hactor : s.actor? (.enter id) = some t) : e.step s (.enter id) =
    match t.operation with
    | .save r => e.enterSave s t r
    | .retrieve sender => e.enterRetrieve s t sender := by
  obtain ⟨ht, hq, hh⟩ := EngineState.actor?_enter.1 hactor
  cases hop : t.operation <;> simp only [step, ht, hq, hh, hop, if_true]

/-- A task whose sender is no test sender goes on to its request. -/
theorem step_called (hactor : s.actor? (.enter id) = some t) (htest : e.isTest t.sender = false) :
    e.step s (.enter id) =
      (s.setStage t.id (.calling (e.request (s.cache.entry t.sender) t.operation)),
        e.announce t.operation ++
          [.call t.id (e.request (s.cache.entry t.sender) t.operation)]) := by
  rw [step_enter hactor]
  cases hop : t.operation with
  | save r =>
    rw [sender_of_save hop] at htest ⊢
    exact enterSave_called htest
  | retrieve sender =>
    rw [sender_of_retrieve hop] at htest ⊢
    exact enterRetrieve_called htest

theorem step_enter_left (hactor : s.actor? (.enter id) = some t)
    (htest : e.isTest t.sender = true) :
    e.Left s (.enter id) t (e.step s (.enter id)).1 (e.step s (.enter id)).2 := by
  rw [step_enter hactor]
  cases hop : t.operation with
  | save r => exact enterSave_left hop (sender_of_save hop ▸ htest)
  | retrieve sender => exact enterRetrieve_left hop (sender_of_retrieve hop ▸ htest)

/-- A reply to a save ends it. -/
theorem step_written {reply : WriteReply} (hactor : s.actor? (.reply id (.written reply)) = some t)
    (hop : t.operation = .save r) :
    e.step s (.reply id (.written reply)) = finishSave s t r reply := by
  obtain ⟨ht, hw⟩ := EngineState.actor?_reply.1 hactor
  cases hq : t.stage with
  | queued => simp [Task.awaits, hq] at hw
  | calling c => simp only [step, ht, hq, hop]

/-- A reply to a retrieve ends it. -/
theorem step_fetched {reply : FetchReply} (hactor : s.actor? (.reply id (.fetched reply)) = some t)
    (hop : t.operation = .retrieve sender) :
    e.step s (.reply id (.fetched reply)) = e.finishRetrieve s t sender reply := by
  obtain ⟨ht, hw⟩ := EngineState.actor?_reply.1 hactor
  cases hq : t.stage with
  | queued => simp [Task.awaits, hq] at hw
  | calling c => simp only [step, ht, hq, hop]

theorem step_reply_left {reply : Reply} (hactor : s.actor? (.reply id reply) = some t) :
    e.Left s (.reply id reply) t (e.step s (.reply id reply)).1
      (e.step s (.reply id reply)).2 := by
  obtain ⟨-, hw⟩ := EngineState.actor?_reply.1 hactor
  cases hop : t.operation with
  | save record =>
    cases reply with
    -- A save does not await what a fetch brings.
    | fetched reply => cases hq : t.stage <;> simp [Task.awaits, hq, hop] at hw
    | written reply =>
      rw [step_written hactor hop]
      exact finishSave_left hop reply
  | retrieve sender =>
    cases reply with
    | written reply => cases hq : t.stage <;> simp [Task.awaits, hq, hop] at hw
    | fetched reply =>
      rw [step_fetched hactor hop]
      exact finishRetrieve_left hop reply

theorem step_cancel_left (hactor : s.actor? (.cancel id) = some t) :
    e.Left s (.cancel id) t (e.step s (.cancel id)).1 (e.step s (.cancel id)).2 := by
  have ht : s.task? id = some t := hactor
  have hstep : e.step s (.cancel id) =
      ({ s.removeTask id with cache := s.cache.unlock t.handle }, []) := by
    simp only [step, ht]
  rw [hstep, ← EngineState.id_of_task? ht]
  exact ⟨rfl, by simp [Task.releases], fun k => by simp [leave], rfl⟩

/-- An action that ends a task does nothing else. -/
theorem step_left {a : Action} (hactor : s.actor? a = some t) (hends : e.ends t a = true) :
    e.Left s a t (e.step s a).1 (e.step s a).2 := by
  cases a with
  | begin _ _ | sweep _ => cases hactor
  | enter id => exact step_enter_left hactor hends
  | reply id reply => exact step_reply_left hactor
  | cancel id => exact step_cancel_left hactor

/-- Only entering leaves a task under way. -/
theorem enter_of_not_ends {a : Action} (hactor : s.actor? a = some t)
    (hends : e.ends t a = false) : (∃ id, a = .enter id) ∧ e.isTest t.sender = false := by
  cases a with
  | enter id => exact ⟨⟨id, rfl⟩, hends⟩
  | begin _ _ | sweep _ => cases hactor
  | reply _ _ | cancel _ => cases hends

theorem transition_begin (s : EngineState) (id : Nat) (op : Operation) :
    e.Transition s (.begin id op) (e.step s (.begin id op)).1 (e.step s (.begin id op)).2 := by
  rw [step]
  split
  · rename_i hid
    refine .ignored rfl ?_ (by simp)
    rintro _ _ ⟨⟩ hnone
    rw [hnone] at hid
    cases hid
  · rename_i hid
    have hlock : s.cache.lock op.sender = ({ s.cache with locks :=
        (s.cache.locks.lock op.sender).1 }, s.cache.locks.nextHandle) :=
      Prod.ext rfl (Locks.lock_id _ _)
    simp only [Operation.sender_anonymize, hlock]
    exact .queued (by simpa using hid) rfl rfl fun _ => rfl

/-- An action that moves no task changes nothing. -/
theorem step_of_actor_none {a : Action} (hactor : s.actor? a = none)
    (hbegin : ∀ id op, a ≠ .begin id op) (hsweep : ∀ now, a ≠ .sweep now) :
    e.step s a = (s, []) := by
  cases a with
  | begin id op => exact absurd rfl (hbegin id op)
  | enter id =>
    rw [step]
    cases ht : s.task? id with
    | none => rfl
    | some t =>
      -- The task would act if it were queued and had the lock.
      have hnot : ¬ (t.stage = .queued ∧ s.cache.locks.holds t.handle = true) := fun h => by
        rw [EngineState.actor?_enter.2 ⟨ht, h⟩] at hactor
        cases hactor
      obtain ⟨_, op, handle, stage⟩ := t
      cases stage with
      | queued => exact if_neg fun hh => hnot ⟨rfl, hh⟩
      | calling c => rfl
  | reply id r =>
    rw [step]
    cases ht : s.task? id with
    | none => rfl
    | some t =>
      have hnot : ¬ t.awaits r = true := fun h => by
        rw [EngineState.actor?_reply.2 ⟨ht, h⟩] at hactor
        cases hactor
      obtain ⟨_, op, handle, stage⟩ := t
      cases stage <;> cases op <;> cases r <;> first | rfl | exact absurd rfl hnot
  | cancel id =>
    rw [EngineState.actor?] at hactor
    rw [step, hactor]
  | sweep now => exact absurd rfl (hsweep now)

/-- Every step is a transition. -/
theorem transition (s : EngineState) (a : Action) :
    e.Transition s a (e.step s a).1 (e.step s a).2 := by
  cases hactor : s.actor? a with
  | some t =>
    -- Whoever acts ends with it, or goes on to its request.
    cases hends : e.ends t a with
    | true => exact .left hactor hends (step_left hactor hends)
    | false =>
      obtain ⟨⟨id, rfl⟩, htest⟩ := enter_of_not_ends hactor hends
      rw [step_called hactor htest]
      exact .called hactor htest
  | none =>
    cases a with
    | begin id op => exact transition_begin s id op
    | sweep now => exact .swept now
    | enter _ | reply _ _ | cancel _ =>
      rw [step_of_actor_none hactor (by simp) (by simp)]
      exact .ignored hactor (by simp) (by simp)

/-! ### Who brings an effect about -/

/-- All that is published is what a save has got to store. -/
theorem mem_announce {op : Operation} {effect : Effect} (h : effect ∈ e.announce op) :
    ∃ r, op = .save r ∧ effect = .publish r.senderId r.events := by
  cases op with
  | save r =>
    rw [announce] at h
    split at h
    · exact ⟨r, rfl, List.mem_singleton.1 h⟩
    · cases h
  | retrieve sender => cases h

/-- A task that leaves is done, or it is dropped and nobody hears of it. -/
theorem mem_leave {x : Entry} {a : Action} {effect : Effect} (h : effect ∈ (e.leave x t a).2) :
    ∃ outcome, effect = .done t.id outcome := by
  cases a with
  | enter _ | reply _ _ => exact ⟨_, List.mem_singleton.1 h⟩
  | begin _ _ | cancel _ | sweep _ => cases h

/-- Effects are those of a task that goes on to its request, of a task that leaves, or of a sweep. -/
theorem effect_cases {a : Action} {effect : Effect} (h : effect ∈ (e.step s a).2) :
    (∃ t, s.actor? a = some t ∧ e.isTest t.sender = false ∧
      (effect ∈ e.announce t.operation ∨
        effect = .call t.id (e.request (s.cache.entry t.sender) t.operation))) ∨
    (∃ t, s.actor? a = some t ∧ e.ends t a = true ∧
      effect ∈ (e.leave (s.cache.entry t.sender) t a).2) ∨
    ∃ report, effect = .swept report := by
  have htransition := transition (e := e) s a
  generalize (e.step s a).1 = s', (e.step s a).2 = effects at htransition h
  cases htransition with
  | ignored | queued => cases h
  | called hactor htest =>
    rw [List.mem_append, List.mem_singleton] at h
    exact .inl ⟨_, hactor, htest, h⟩
  | left hactor hends hleft =>
    rw [hleft.effects_eq] at h
    exact .inr (.inl ⟨_, hactor, hends, h⟩)
  | swept now => exact .inr (.inr ⟨_, List.mem_singleton.1 h⟩)

/-- A request is made by the task that moves, from its operation and its sender's entry. -/
theorem request_of_call {a : Action} {c : Call} (hcall : .call id c ∈ (e.step s a).2) :
    ∃ t, s.actor? a = some t ∧ t.id = id ∧
      c = e.request (s.cache.entry t.sender) t.operation := by
  rcases effect_cases hcall with ⟨t, hactor, -, h | h⟩ | ⟨t, -, -, h⟩ | ⟨report, h⟩
  · obtain ⟨r, -, h⟩ := mem_announce h
    cases h
  · cases h
    exact ⟨t, hactor, rfl, rfl⟩
  · obtain ⟨outcome, h⟩ := mem_leave h
    cases h
  · cases h

/-- What is published is the record of a save, and its sender is no test sender. -/
theorem save_of_publish {a : Action} {events : List Event}
    (hpublish : .publish sender events ∈ (e.step s a).2) :
    ∃ t r, s.actor? a = some t ∧ e.isTest t.sender = false ∧ t.operation = .save r ∧
      r.senderId = sender ∧ r.events = events := by
  rcases effect_cases hpublish with ⟨t, hactor, htest, h | h⟩ | ⟨t, -, -, h⟩ | ⟨report, h⟩
  · obtain ⟨r, hop, h⟩ := mem_announce h
    cases h
    exact ⟨t, r, hactor, htest, hop, rfl, rfl⟩
  · cases h
  · obtain ⟨outcome, h⟩ := mem_leave h
    cases h
  · cases h

end Engine

end DialogueStore
