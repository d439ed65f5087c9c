/-
One operation, from its beginning to its end.

An operation whose lock is free runs through at once.  One whose lock is taken waits,
and what it does later are steps of the engine between the steps of other tasks.  For
a save, all that others can ever see of it is the same either way: it is published, one
request hands its record over, and one outcome tells its events.

* `Engine.perform_local`, `Engine.perform_remote` — an operation that runs through at once,
* `Engine.perform_waits` — an operation that has to wait,
* `Engine.moves_only_own` — what a save does in any one step, whatever else is under way,
* `Engine.course_of_save` — all that is ever seen of a save that has begun.

Design notes: an id may be used again when its task has left.  What is said of a save
that waits is said of runs in which nobody else begins under its id.
-/
import DialogueStore.Engine.Perform
import DialogueStore.Proofs.Failures
import DialogueStore.Remote.GraphQl

namespace DialogueStore

theorem le_foldl_max {l : List Nat} {a x : Nat} (h : x ≤ a ∨ x ∈ l) : x ≤ l.foldl max a := by
  induction l generalizing a with
  | nil => simpa using h
  | cons y rest ih =>
    refine ih ?_
    rcases h with h | h
    · exact .inl (h.trans (Nat.le_max_left a y))
    · rcases List.mem_cons.1 h with rfl | h
      · exact .inl (Nat.le_max_right a x)
      · exact .inr h

namespace Awaited

variable {α β : Type}

/-- A value that is given, or that may be given when the task is done. -/
def CanBe : Awaited α → α → Prop
  | .now a, x => a = x
  | .later _ finish, x => ∃ outcome, finish outcome = x

theorem canBe_map {f : α → β} {a : Awaited α} {y : β} :
    (a.map f).CanBe y ↔ ∃ x, a.CanBe x ∧ f x = y := by
  cases a with
  | now a => simp [map, CanBe]
  | later id finish => simp [map, CanBe]

end Awaited

/-- A reply is of the kind that a request asks for. -/
def Call.Takes : Call → Reply → Prop
  | .fetch _, .fetched _ => True
  | .insert _, .written _ => True
  | .update _, .written _ => True
  | _, _ => False

/-- The body of a request hands over a record, and both its variables and the record in them name
the sender. -/
def Json.HandsOver (body : Json) (sender : String) : Prop :=
  ∃ vars tracker, body.get? "variables" = some vars ∧
    vars.get? "senderId" = some (.string sender) ∧ vars.get? "tracker" = some tracker ∧
    tracker.get? "sender_id" = some (.string sender)

namespace EngineState

variable {e : Engine} {s : EngineState} {t : Task} {id : Nat} {a : Action}

/-- The id that the next operation gets is no task's. -/
theorem task?_nextId (s : EngineState) : s.task? s.nextId = none := by
  rw [task?, List.find?_eq_none]
  intro t ht
  have hle : t.id ≤ (s.tasks.map (·.id)).foldl max 0 :=
    le_foldl_max (.inr (List.mem_map_of_mem ht))
  have hne : t.id ≠ s.nextId := by
    rw [nextId]
    omega
  simpa using hne

theorem id_ne_of_task? (hid : s.task? id = none) {u : Task} (hu : u ∈ s.tasks) : u.id ≠ id := by
  simpa using List.find?_eq_none.1 hid u hu

/-- A task that has come and gone leaves no trace among the tasks. -/
theorem filter_append_task (hid : s.task? t.id = none) :
    (s.tasks ++ [t]).filter (fun u => u.id ≠ t.id) = s.tasks := by
  have hkept : s.tasks.filter (fun u => u.id ≠ t.id) = s.tasks :=
    List.filter_eq_self.2 fun u hu => decide_eq_true (id_ne_of_task? hid hu)
  rw [List.filter_append, hkept]
  simp

/-- Nobody but the task of an id changes what is known under it, unless one begins there. -/
theorem Sound.task?_step (hs : s.Sound e) (hother : ∀ u, s.actor? a = some u → u.id ≠ id)
    (hbegin : ∀ op, a ≠ .begin id op) : (e.step s a).1.task? id = s.task? id := by
  have hsound := hs.step a
  have h := Engine.transition (e := e) s a
  generalize (e.step s a).1 = s', (e.step s a).2 = effects at h hsound
  refine Option.ext fun t => ?_
  rw [hsound.task?_eq_some, hs.task?_eq_some]
  refine and_congr_left fun hid => ?_
  cases h with
  | ignored | swept => exact Iff.rfl
  | @queued id' op _ _ htasks =>
    have hne : id' ≠ t.id := by
      rintro rfl
      exact hbegin op (hid ▸ rfl)
    rw [htasks, List.mem_append, List.mem_singleton]
    refine or_iff_left ?_
    rintro rfl
    exact hne rfl
  | @called _ u hactor =>
    have hne : t.id ≠ u.id := fun h => hother u hactor (h.symm.trans hid)
    rw [mem_setStage]
    constructor
    · -- The task that moves has another id, so that the one that is looked up is not rewritten.
      rintro ⟨v, hv, rfl⟩
      rwa [if_neg hne]
    · intro ht
      exact ⟨t, ht, by rw [if_neg hne]⟩
  | @left _ u _ _ hactor _ hleft =>
    have hne : t.id ≠ u.id := fun h => hother u hactor (h.symm.trans hid)
    rw [hleft.tasks, List.mem_filter]
    exact and_iff_left (decide_eq_true hne)

end EngineState

namespace Engine

variable {e : Engine} {s s' : EngineState} {t : Task} {id : Nat} {op : Operation} {a : Action}
  {stored : Record}

/-! ### What is performed at once -/

/-- An operation is begun and entered under the next id, and its request is answered if it makes
one. -/
theorem perform_eq {s₁ s₂ : EngineState} {effects : List Effect} (answer : Call → Reply)
    (hbegin : e.step s (.begin s.nextId op) = (s₁, []))
    (henter : e.step s₁ (.enter s.nextId) = (s₂, effects)) :
    e.perform s answer op = match effects.findSome? Effect.call? with
      | some call => ((e.step s₂ (.reply s.nextId (answer call))).1,
          effects ++ (e.step s₂ (.reply s.nextId (answer call))).2)
      | none => (s₂, effects) := by
  cases hcall : effects.findSome? Effect.call? with
  | none => simp only [perform, run, hbegin, henter, hcall, List.append_nil, List.nil_append]
  | some call =>
    simp only [perform, run, hbegin, henter, hcall, List.append_nil, List.nil_append]

/-- An operation whose lock is taken has begun, and nothing else comes of it. -/
theorem perform_waits (hs : s.Sound e) (answer : Call → Reply)
    (hlocked : s.cache.locks.isLocked op.sender = true) :
    ∃ s' t, e.perform s answer op = (s', []) ∧ e.step s (.begin s.nextId op) = (s', []) ∧
      s'.tasks = s.tasks ++ [t] ∧ t.id = s.nextId ∧ t.operation = op.anonymize e.anonymize ∧
      t.stage = .queued ∧ ∀ k, s'.cache.entry k = s.cache.entry k := by
  obtain ⟨s', t, hbegin, -, htasks, hentry, hid, hop, hstage, ht, hholds⟩ :=
    hs.begin_task s.task?_nextId op
  have hactor : s'.actor? (.enter s.nextId) = none := by
    rw [EngineState.actor?, ht, Option.filter_some, hholds, hlocked]
    simp
  have henter : e.step s' (.enter s.nextId) = (s', []) :=
    step_of_actor_none hactor (by rintro _ _ ⟨⟩) (by rintro _ ⟨⟩)
  exact ⟨s', t, perform_eq answer hbegin henter, hbegin, htasks, hid, hop, hstage, hentry⟩

/-- The next operation enters at once if its lock is free. -/
theorem exists_of_free (hs : s.Sound e) (hfree : s.cache.locks.isLocked op.sender = false) :
    ∃ s' t, t.id = s.nextId ∧ e.step s (.begin s.nextId op) = (s', []) ∧ s'.Sound e ∧
      s'.tasks = s.tasks ++ [t] ∧ (∀ k, s'.cache.entry k = s.cache.entry k) ∧
      t.operation = op.anonymize e.anonymize ∧ t.sender = op.sender ∧
      s'.actor? (.enter s.nextId) = some t := by
  obtain ⟨s', t, hbegin, hsound, htasks, hentry, hid, hop, hstage, ht, hholds⟩ :=
    hs.begin_task s.task?_nextId op
  have hsender : t.sender = op.sender := by rw [Task.sender, hop, Operation.sender_anonymize]
  exact ⟨s', t, hid, hbegin, hsound, htasks, hentry, hop, hsender,
    EngineState.actor?_enter.2 ⟨ht, hstage, hholds.trans (congrArg not hfree)⟩⟩

/-- What an operation that runs through leaves of the state: no task of its own, and one entry. -/
structure Changes (s : EngineState) (sender : String) (x : Entry) (s' : EngineState) : Prop where
  sound : s'.Sound e
  tasks : s'.tasks = s.tasks
  entry : ∀ k, s'.cache.entry k = if sender = k then x else s.cache.entry k

/-- An operation on a test sender is done without a request. -/
theorem perform_local (hs : s.Sound e) (answer : Call → Reply)
    (hfree : s.cache.locks.isLocked op.sender = false) (htest : e.isTest op.sender = true) :
    let ended := performLocally (s.cache.entry op.sender) (op.anonymize e.anonymize)
    ∃ s', e.perform s answer op = (s', [.done s.nextId ended.2]) ∧
      e.Changes s op.sender ended.1 s' := by
  intro ended
  obtain ⟨s₁, t, hid, hbegin, hsound, htasks, hentry, hop, hsender, hactor⟩ :=
    exists_of_free hs hfree
  have hleft := step_left hactor (show e.isTest t.sender = true from hsender ▸ htest)
  have hended : e.leave (s₁.cache.entry op.sender) t (.enter s.nextId) =
      (ended.1, [.done s.nextId ended.2]) := by
    rw [leave, hop, hentry, hid]
  have hdone : e.step s₁ (.enter s.nextId) =
      ((e.step s₁ (.enter s.nextId)).1, [.done s.nextId ended.2]) := by
    refine Prod.ext rfl ?_
    rw [hleft.effects_eq, hsender, hended]
  refine ⟨_, perform_eq answer hbegin hdone, hsound.step (.enter s.nextId), ?_, fun k => ?_⟩
  · rw [hleft.tasks, htasks, EngineState.filter_append_task (hid ▸ s.task?_nextId)]
  · rw [hleft.entry, hsender]
    split
    · rename_i hk
      rw [← hk, hended]
    · exact hentry k

theorem findSome?_announce (op : Operation) (call : Call) :
    (e.announce op ++ [Effect.call id call]).findSome? Effect.call? = some call := by
  cases op with
  | retrieve sender => rfl
  | save r =>
    rw [announce]
    split <;> rfl

/-- A task takes the replies of the kind that its request asks for. -/
theorem awaits_of_takes {x : Entry} {call : Call} {reply : Reply} (hstage : t.stage = .calling call)
    (h : (e.request x t.operation).Takes reply) : t.awaits reply = true := by
  cases hop : t.operation with
  | retrieve sender =>
    rw [hop] at h
    cases reply with
    | fetched _ => simp only [Task.awaits, hstage, hop]
    | written _ => cases h
  | save r =>
    rw [hop, request] at h
    cases reply with
    | written _ => simp only [Task.awaits, hstage, hop]
    | fetched _ =>
      split at h
      · cases h
      · cases h

/-- Any other operation makes its request and is ended by the reply. -/
theorem perform_remote (hs : s.Sound e) {answer : Call → Reply}
    (hanswer : ∀ call : Call, call.Takes (answer call))
    (hfree : s.cache.locks.isLocked op.sender = false) (htest : e.isTest op.sender = false) :
    let op' := op.anonymize e.anonymize
    let call := e.request (s.cache.entry op.sender) op'
    let ended := e.conclude (s.cache.entry op.sender) op' (answer call)
    ∃ s', e.perform s answer op =
        (s', e.announce op' ++ [.call s.nextId call] ++ [.done s.nextId ended.2]) ∧
      e.Changes s op.sender ended.1 s' := by
  intro op' call ended
  obtain ⟨s₁, t, hid, hbegin, hsound, htasks, hentry, hop, hsender, hactor⟩ :=
    exists_of_free hs hfree
  -- It goes on to its request, ...
  have hcalled := step_called hactor (show e.isTest t.sender = false from hsender ▸ htest)
  rw [hsender, hentry, hop, hid] at hcalled
  have hsound₂ : (s₁.setStage s.nextId (.calling call)).Sound e := by
    have := hsound.step (.enter s.nextId)
    rwa [hcalled] at this
  -- ... and the reply is one that it takes, and ends it.
  have hmem : { t with stage := .calling call } ∈ (s₁.setStage s.nextId (.calling call)).tasks :=
    EngineState.mem_setStage.2 ⟨t, EngineState.mem_of_actor? hactor, by rw [if_pos hid]⟩
  have hactor₂ : (s₁.setStage s.nextId (.calling call)).actor? (.reply s.nextId (answer call)) =
      some { t with stage := .calling call } :=
    EngineState.actor?_reply.2 ⟨hsound₂.task?_eq_some.2 ⟨hmem, hid⟩,
      awaits_of_takes rfl (x := s.cache.entry op.sender) (by rw [hop]; exact hanswer call)⟩
  have hleft := step_left (e := e) hactor₂ rfl
  have hkept : ∀ k, (s₁.setStage s.nextId (.calling call)).cache.entry k = s.cache.entry k := hentry
  have hmine : ({ t with stage := .calling call } : Task).sender = op.sender := hsender
  have hended : e.leave (s.cache.entry op.sender) { t with stage := .calling call }
      (.reply s.nextId (answer call)) = (ended.1, [.done s.nextId ended.2]) := by
    rw [leave, hop, hid]
  refine ⟨_, ?_, hsound₂.step (.reply s.nextId (answer call)), ?_, fun k => ?_⟩
  · have hdone : (e.step (s₁.setStage s.nextId (.calling call))
        (.reply s.nextId (answer call))).2 = [.done s.nextId ended.2] := by
      rw [hleft.effects_eq, hmine, hkept, hended]
    rw [perform_eq answer hbegin hcalled, findSome?_announce]
    dsimp only
    rw [hdone]
  · have hgone : (s.tasks ++ [t]).filter (fun u => u.id ≠ t.id) = s.tasks :=
      EngineState.filter_append_task (hid ▸ s.task?_nextId)
    rw [hleft.tasks, EngineState.filter_setStage _ _ _ fun _ _ => rfl, htasks]
    dsimp only
    rw [hgone]
    exact (List.map_congr_left fun u hu =>
      if_neg (EngineState.id_ne_of_task? s.task?_nextId hu)).trans (List.map_id _)
  · rw [hleft.entry, hmine, hkept]
    split
    · rename_i hk
      rw [← hk, hended]
    · rfl

/-! ### A save in one step -/

theorem handsOver_request (x : Entry) :
    (e.request x (.save stored)).body.HandsOver stored.senderId := by
  rw [request]
  split
  · exact ⟨_, _, rfl, rfl, rfl, rfl⟩
  · exact ⟨_, _, rfl, rfl, rfl, rfl⟩

/-- Whatever comes back, a save caches its record and tells its events. -/
theorem conclude_save (x : Entry) (stored : Record) (reply : Reply) :
    (e.conclude x (.save stored) reply).1.normal = some stored ∧
      (e.conclude x (.save stored) reply).2 = .saved stored.events := by
  rcases reply with _ | (_ | _)
  · exact ⟨rfl, rfl⟩
  · exact ⟨rfl, rfl⟩
  · exact ⟨rfl, rfl⟩

/-- The reply to a write replaces the cursor, if it has one. -/
theorem conclude_of_takes {x x' : Entry} {reply : Reply}
    (h : (e.request x' (.save stored)).Takes reply) :
    (e.conclude x (.save stored) reply).1 = { x with
      normal := some stored
      cursor := (reply.cursor?.map RemoteCursor.toCursor).or x.cursor } := by
  cases reply with
  | written reply => cases reply <;> rfl
  | fetched _ =>
    rw [request] at h
    split at h
    · cases h
    · cases h

/-- Where the record of a sender is cached. -/
def partition (e : Engine) (sender : String) : Partition :=
  if e.isTest sender then .test else .normal

/-- A save that is ended by itself tells its events, and its record is cached then. -/
theorem leave_save (hs : s.Sound e) (hactor : s.actor? a = some t) (hends : e.ends t a = true)
    (hop : t.operation = .save stored) (hcancel : ∀ id, a ≠ .cancel id) :
    (e.leave (s.cache.entry t.sender) t a).2 = [.done t.id (.saved stored.events)] ∧
      (e.leave (s.cache.entry t.sender) t a).1.record (e.partition stored.senderId) =
        some stored := by
  have hsender := sender_of_save hop
  cases a with
  | begin _ _ | sweep _ => cases hactor
  | cancel id => exact absurd rfl (hcancel id)
  | enter id =>
    have htest : e.isTest stored.senderId = true := hsender ▸ hends
    rw [leave, hop, performLocally, partition, if_pos htest]
    exact ⟨rfl, rfl⟩
  | reply id reply =>
    -- A task that waits for a reply has made a request, and a test sender's never does.
    have hbusy := Task.not_isQueued_of_awaits (EngineState.actor?_reply.1 hactor).2
    have htest : e.isTest stored.senderId = false := by
      cases hstage : t.stage with
      | queued =>
        rw [Task.isQueued, hstage] at hbusy
        cases hbusy
      | calling call =>
        exact hsender ▸ (hs.calls t (EngineState.mem_of_actor? hactor) call hstage).1
    obtain ⟨hcached, hsaved⟩ := conclude_save (e := e) (s.cache.entry t.sender) stored reply
    rw [leave, hop, hsaved, partition, htest]
    exact ⟨rfl, hcached⟩

/-- What a step of a save may do: it changes the entry of its sender and no other task, and what
others see of it is about its sender. -/
structure MovesOnlyOwn (s : EngineState) (t : Task) (stored : Record) (s' : EngineState)
    (effects : List Effect) : Prop where
  entry : ∀ sender ≠ stored.senderId, s'.cache.entry sender = s.cache.entry sender
  tasks : ∀ u ∈ s.tasks, u.id ≠ t.id → u ∈ s'.tasks
  effects : ∀ effect ∈ effects, effect = .publish stored.senderId stored.events ∨
    (∃ call, effect = .call t.id call ∧ call.body.HandsOver stored.senderId) ∨
    effect = .done t.id (.saved stored.events) ∧
      (s'.cache.entry stored.senderId).record (e.partition stored.senderId) = some stored

/-- **A save moves only what is its own.** -/
theorem moves_only_own (hs : s.Sound e) (hactor : s.actor? a = some t)
    (hop : t.operation = .save stored) :
    e.MovesOnlyOwn s t stored (e.step s a).1 (e.step s a).2 := by
  have hsender := sender_of_save hop
  cases hends : e.ends t a with
  | false =>
    obtain ⟨⟨id, rfl⟩, htest⟩ := enter_of_not_ends hactor hends
    rw [step_called hactor htest]
    refine ⟨fun _ _ => rfl, fun u hu hne => ?_, fun effect heffect => ?_⟩
    · exact EngineState.mem_setStage.2 ⟨u, hu, by rw [if_neg hne]⟩
    · rcases List.mem_append.1 heffect with heffect | heffect
      · rw [hop, announce] at heffect
        split at heffect
        · exact .inl (List.mem_singleton.1 heffect)
        · cases heffect
      · rw [List.mem_singleton] at heffect
        refine .inr (.inl ⟨_, heffect, ?_⟩)
        rw [hop]
        exact handsOver_request _
  | true =>
    have hleft := step_left hactor hends
    refine ⟨fun sender hne => ?_, fun u hu hne => ?_, fun effect heffect => ?_⟩
    · rw [hleft.entry, hsender, if_neg (Ne.symm hne)]
    · rw [hleft.tasks, List.mem_filter]
      exact ⟨hu, decide_eq_true hne⟩
    · rw [hleft.effects_eq] at heffect
      -- Nobody sees that a task is dropped, so that the save has ended by itself.
      have hcancel : ∀ id, a ≠ .cancel id := by
        rintro id rfl
        cases heffect
      obtain ⟨hdone, hcached⟩ := leave_save hs hactor hends hop hcancel
      rw [hdone, List.mem_singleton] at heffect
      refine .inr (.inr ⟨heffect, ?_⟩)
      rw [hleft.entry, if_pos hsender, ← hsender]
      exact hsender.symm ▸ hcached

/-- An outcome is told by the task that moves. -/
theorem actor_of_done {outcome : Outcome} (h : .done id outcome ∈ (e.step s a).2) :
    ∃ t, s.actor? a = some t ∧ t.id = id := by
  rcases effect_cases h with ⟨t, -, -, h | h⟩ | ⟨t, hactor, -, h⟩ | ⟨report, h⟩
  · obtain ⟨r, -, h⟩ := mem_announce h
    cases h
  · cases h
  · obtain ⟨_, h⟩ := mem_leave h
    cases h
    exact ⟨t, hactor, rfl⟩
  · cases h

/-! ### All that is seen of a save -/

/-- All that others see of a save in the end: what is published, the request and the outcome.  Of a
test conversation they see the outcome alone. -/
def shownBySave (e : Engine) (id : Nat) (stored : Record) (call : Call) : List Effect :=
  if e.isTest stored.senderId then [.done id (.saved stored.events)]
  else e.announce (.save stored) ++ [.call id call] ++ [.done id (.saved stored.events)]

/-- How far a save has come that began under an id: it is under way; or it is gone, and what was seen
of it was a beginning of `shownBySave`, and all of that unless it was dropped. -/
def Course (e : Engine) (id : Nat) (stored : Record) (dropped : Prop) (l : List Action) : Prop :=
  (∃ t, (e.after l).task? id = some t ∧ t.operation = .save stored) ∨
  (e.after l).task? id = none ∧ ∃ call, call.body.HandsOver stored.senderId ∧
    e.seenOf id l <+: e.shownBySave id stored call ∧
    (¬ dropped → e.seenOf id l = e.shownBySave id stored call)

variable {past l : List Action} {dropped : Prop} {r : Record}

/-- What has been heard of a save that is under way is a beginning of all that is shown of it.  Once
it has made its request, if it makes one, only the outcome is missing. -/
theorem exists_rest (hs : s.Sound e) (ht : t ∈ s.tasks) (hop : t.operation = .save stored) :
    ∃ call rest, call.body.HandsOver stored.senderId ∧
      e.shownBySave t.id stored call = e.heard t ++ rest ∧
      (t.isQueued = false ∨ e.isTest stored.senderId = true →
        rest = [.done t.id (.saved stored.events)]) := by
  cases hstage : t.stage with
  | queued =>
    have hheard : e.heard t = [] := by rw [heard, hstage]
    have hqueued : t.isQueued = true := by rw [Task.isQueued, hstage]
    -- A queued task has shown nothing yet, and its request is the one it would make now.
    let call := e.request (s.cache.entry t.sender) (.save stored)
    refine ⟨call, e.shownBySave t.id stored call, handsOver_request _, ?_, ?_⟩
    · rw [hheard, List.nil_append]
    · rw [hqueued]
      rintro (h | htest)
      · cases h
      · exact if_pos htest
  | calling call =>
    -- Its request is made; only the end of the task is still to be seen.
    obtain ⟨htest, hcall⟩ := hs.calls t ht call hstage
    rw [sender_of_save hop] at htest
    have hheard : e.heard t = e.announce (.save stored) ++ [.call t.id call] := by
      rw [heard, hstage, hop]
    refine ⟨call, _, ?_, ?_, fun _ => rfl⟩
    · rw [hcall, hop]
      exact handsOver_request _
    · rw [hheard, shownBySave, htest, if_neg (by simp)]

/-- A save that moves is under way still, or it has come to its end. -/
theorem course_of_actor (hactor : (e.after l).actor? a = some t) (hop : t.operation = .save stored)
    (hdropped : a = .cancel t.id → dropped) : e.Course t.id stored dropped (l ++ [a]) := by
  have hs := e.sound_after l
  cases hends : e.ends t a with
  | false =>
    obtain ⟨⟨id, rfl⟩, htest⟩ := enter_of_not_ends hactor hends
    obtain rfl := EngineState.id_of_task? (EngineState.actor?_enter.1 hactor).1
    exact .inl ⟨_, task?_entered hactor htest, hop⟩
  | true =>
    have hleft := step_left hactor hends
    obtain ⟨call, rest, hhands, hshown, hrest⟩ :=
      exists_rest hs (EngineState.mem_of_actor? hactor) hop
    -- No task of this id is left behind.
    have hgone : (e.after (l ++ [a])).task? t.id = none := by
      rw [after_append, EngineState.task?, hleft.tasks, List.find?_eq_none]
      intro u hu
      simpa using (List.mem_filter.1 hu).2
    have hseen := seenOf_of_actor hactor
    rw [hleft.effects_eq] at hseen
    refine .inr ⟨hgone, call, hhands, ?_⟩
    by_cases hcancel : ∃ id, a = .cancel id
    · obtain ⟨id, rfl⟩ := hcancel
      obtain rfl := EngineState.id_of_task? hactor
      -- A save that is dropped shows nothing more, so what was seen is a prefix.
      rw [hseen, hshown]
      refine ⟨?_, fun h => absurd (hdropped rfl) h⟩
      exact (List.prefix_append_right_inj _).2 List.nil_prefix
    · -- Ended by itself, it has made its request before, or it makes none.
      have hlast : t.isQueued = false ∨ e.isTest stored.senderId = true := by
        cases a with
        | begin _ _ | sweep _ => cases hactor
        | cancel id => exact absurd ⟨id, rfl⟩ hcancel
        | enter id => exact .inr (sender_of_save hop ▸ hends)
        | reply id reply =>
          exact .inl (Task.not_isQueued_of_awaits (EngineState.actor?_reply.1 hactor).2)
      obtain ⟨hdone, -⟩ := leave_save hs hactor hends hop fun id h => hcancel ⟨id, h⟩
      rw [hseen, hdone, hshown, hrest hlast]
      exact ⟨List.prefix_rfl, fun _ => rfl⟩

/-- One action more, as long as nobody begins under the id. -/
theorem Course.snoc (h : e.Course id stored dropped l) (hbegin : ∀ op, a ≠ .begin id op)
    (hdropped : a = .cancel id → dropped) : e.Course id stored dropped (l ++ [a]) := by
  by_cases hactor : ∃ t, (e.after l).actor? a = some t ∧ t.id = id
  · obtain ⟨t, hactor, rfl⟩ := hactor
    rcases h with ⟨u, hu, hop⟩ | ⟨hnone, -⟩
    · have hut := (e.sound_after l).task?_eq_some.2 ⟨EngineState.mem_of_actor? hactor, rfl⟩
      obtain rfl := Option.some.inj (hu.symm.trans hut)
      exact course_of_actor hactor hop hdropped
    · exact absurd rfl (EngineState.id_ne_of_task? hnone (EngineState.mem_of_actor? hactor))
  · have hother : ∀ t, (e.after l).actor? a = some t → t.id ≠ id :=
      fun t ht hid => hactor ⟨t, ht, hid⟩
    have htask : (e.after (l ++ [a])).task? id = (e.after l).task? id := by
      rw [after_append]
      exact (e.sound_after l).task?_step hother hbegin
    have hseen : e.seenOf id (l ++ [a]) = e.seenOf id l := by
      rw [seenOf, stepsBy_of_other hother fun op ha => absurd ha (hbegin op)]
      rfl
    rw [Course, htask, hseen]
    exact h

theorem Course.mono {dropped' : Prop} (h : e.Course id stored dropped l)
    (himp : dropped → dropped') : e.Course id stored dropped' l :=
  h.imp_right fun ⟨hnone, call, hhands, hseen, hall⟩ =>
    ⟨hnone, call, hhands, hseen, fun h => hall fun hd => h (himp hd)⟩

/-- What has been seen of a save so far is a beginning of all that is shown of it, and the whole once
it is gone without having been dropped. -/
theorem Course.seen (h : e.Course id stored dropped l) :
    ∃ call, call.body.HandsOver stored.senderId ∧ e.seenOf id l <+: e.shownBySave id stored call ∧
      ((e.after l).task? id = none → ¬ dropped →
        e.seenOf id l = e.shownBySave id stored call) := by
  rcases h with ⟨t, ht, hop⟩ | ⟨-, call, hhands, hseen, hall⟩
  · obtain rfl := EngineState.id_of_task? ht
    have hmem := EngineState.mem_of_task? ht
    obtain ⟨call, rest, hhands, hshown, -⟩ := exists_rest (e.sound_after l) hmem hop
    refine ⟨call, hhands, ?_, fun hnone => ?_⟩
    · rw [hshown, seenOf, (underway_after l hmem).heard]
      exact List.prefix_append _ _
    · rw [ht] at hnone
      cases hnone
  · exact ⟨call, hhands, hseen, fun _ => hall⟩

/-- A save that has begun is told to be done with its events, when its record has just been
cached. -/
theorem Course.done (h : e.Course id stored dropped l) {outcome : Outcome}
    (hdone : .done id outcome ∈ (e.step (e.after l) a).2) : outcome = .saved stored.events ∧
      ((e.step (e.after l) a).1.cache.entry stored.senderId).record
        (e.partition stored.senderId) = some stored := by
  have hs := e.sound_after l
  obtain ⟨t, hactor, rfl⟩ := actor_of_done hdone
  have hmem := EngineState.mem_of_actor? hactor
  rcases h with ⟨u, hu, hop⟩ | ⟨hnone, -⟩
  · obtain rfl := Option.some.inj (hu.symm.trans (hs.task?_eq_some.2 ⟨hmem, rfl⟩))
    rcases (moves_only_own hs hactor hop).effects _ hdone with heq | ⟨_, heq, -⟩ | ⟨heq, hcached⟩
    · cases heq
    · cases heq
    · cases heq
      exact ⟨rfl, hcached⟩
  · exact absurd rfl (EngineState.id_ne_of_task? hnone hmem)

/-- **A save that has begun is under way, or all that others have seen of it is the save**, unless it
was dropped on its way. -/
theorem course_of_save (hnew : (e.after past).task? id = none) {later : List Action}
    (hlater : ∀ op, .begin id op ∉ later) : e.Course id (r.anonymize e.anonymize)
      (.cancel id ∈ later) (past ++ .begin id (.save r) :: later) := by
  induction later using List.reverseRecOn with
  | nil =>
    obtain ⟨s', t, hbegin, -, -, -, -, hop, -, ht, -⟩ :=
      (e.sound_after past).begin_task hnew (.save r)
    refine .inl ⟨t, ?_, hop⟩
    rw [after_append, hbegin]
    exact ht
  | append_singleton later a ih =>
    simp only [List.mem_append, List.mem_singleton, not_or] at hlater
    have hcourse := ih fun op => (hlater op).1
    have hlist : past ++ .begin id (.save r) :: (later ++ [a]) =
        (past ++ .begin id (.save r) :: later) ++ [a] := by simp
    rw [hlist]
    refine (hcourse.mono (List.mem_append_left [a])).snoc (fun op h => (hlater op).2 h.symm) ?_
    rintro rfl
    exact List.mem_append_right _ (List.mem_singleton.2 rfl)

end Engine

end DialogueStore
