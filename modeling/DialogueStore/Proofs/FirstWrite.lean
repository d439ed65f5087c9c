/-
Whether a save inserts a conversation or updates it.

A save inserts what is not cached and updates what is, and nobody asks whether
the remote store holds the conversation.  `Engine.normal_isSome_iff` reads the
cache as a history: a conversation is cached just if, since its last eviction,
one of its inserts was answered, well or badly, or a fetch brought a snapshot.
What follows for the requests:

* `Engine.updates_once_confirmed` — once the remote store is known to hold a
  conversation, it is only updated until it is evicted,
* `Engine.update_preceded` — an update comes after a confirmation or after an
  insert that failed.

Neither holds without its exception.  A conversation that was evicted is
inserted again (`Engine.inserted_after_eviction`), and one whose insert failed is
updated from then on (`Engine.updated_after_failed_insert`).
-/
import DialogueStore.Proofs.Delivery
import DialogueStore.Proofs.Partitions

namespace DialogueStore

namespace Call

/-- Whether a reply to the request tells that the remote store holds the conversation. -/
def confirmedBy : Call → Reply → Bool
  | .insert _, .written (.ok _) => true
  | .fetch _, .fetched (.ok (some _)) => true
  | _, _ => false

/-- Whether the request is an insert and the reply tells of its failure. -/
def insertFailedBy : Call → Reply → Bool
  | .insert _, .written (.error _) => true
  | _, _ => false

end Call

namespace Engine

variable (e : Engine)

/-- Takes note of a moment, and forgets all earlier ones where the sender is evicted. -/
def noteEviction (sender : String) (since : List Moment) (m : Moment) : List Moment :=
  if (e.effects m).any (Effect.evicts sender) then [] else since ++ [m]

/-- The moments of a run since the sender was last evicted. -/
def sinceEviction (sender : String) (actions : List Action) : List Moment :=
  (moments actions).foldl (e.noteEviction sender) []

/-- The request of the sender's that comes to an end at a moment, with its reply. -/
def exchange? (sender : String) (m : Moment) : Option (Call × Reply) :=
  match m.action, e.actor? m with
  | .reply _ reply, some ⟨_, op, _, .calling call⟩ =>
    if op.sender = sender then some (call, reply) else none
  | _, _ => none

/-- Whether it turns out at a moment that the remote store holds the sender's conversation. -/
def confirms (sender : String) (m : Moment) : Bool :=
  (e.exchange? sender m).any fun x => x.1.confirmedBy x.2

/-- Whether an insert of the sender's fails at a moment. -/
def failsInsert (sender : String) (m : Moment) : Bool :=
  (e.exchange? sender m).any fun x => x.1.insertFailedBy x.2

theorem sinceEviction_append (sender : String) (l : List Action) (a : Action) :
    e.sinceEviction sender (l ++ [a]) =
      e.noteEviction sender (e.sinceEviction sender l) ⟨l, a⟩ := by
  simp [sinceEviction]

variable {e} {sender : String} {l : List Action} {a : Action} {t : Task}

/-! ### What makes a conversation cached -/

theorem exchange?_of_none (hactor : (e.after l).actor? a = none) :
    e.exchange? sender ⟨l, a⟩ = none := by
  rw [exchange?, actor?, hactor]
  cases a <;> rfl

theorem exchange?_of_not_reply (ha : ∀ id r, a ≠ .reply id r) :
    e.exchange? sender ⟨l, a⟩ = none := by
  cases a with
  | reply id r => exact absurd rfl (ha id r)
  | begin _ _ | enter _ | cancel _ | sweep _ => rfl

/-- A reply ends the request that its task would make now. -/
theorem exchange?_reply {id : Nat} {r : Reply}
    (hactor : (e.after l).actor? (.reply id r) = some t) :
    e.exchange? sender ⟨l, .reply id r⟩ =
      if t.sender = sender then
        some (e.request ((e.after l).cache.entry t.sender) t.operation, r)
      else none := by
  obtain ⟨htask, hw⟩ := EngineState.actor?_reply.1 hactor
  have hcalls := (e.sound_after l).calls t (EngineState.mem_of_task? htask)
  rw [exchange?, actor?, hactor]
  obtain ⟨tid, op, handle, stage⟩ := t
  cases stage with
  | queued => simp [Task.awaits] at hw
  | calling c => rw [← (hcalls c rfl).2]; rfl

/-- A request that is answered leaves a record if there was one, or if it was an insert, or if it
brought a snapshot. -/
theorem normal_conclude {r : Reply} (hw : t.awaits r = true) (x : Entry) :
    (e.conclude x t.operation r).1.normal.isSome = true ↔ x.normal.isSome = true ∨
      (e.request x t.operation).confirmedBy r = true ∨
      (e.request x t.operation).insertFailedBy r = true := by
  obtain ⟨id, op, handle, stage⟩ := t
  cases stage with
  | queued => simp [Task.awaits] at hw
  | calling c =>
    cases op with
    | save record =>
      cases r with
      | fetched reply => simp [Task.awaits] at hw
      | written reply =>
        -- A save is an insert where no record is cached, and an update otherwise.
        cases hx : x.normal.isSome <;> cases reply <;>
          simp [conclude, request, hx, Call.confirmedBy, Call.insertFailedBy]
    | retrieve sender =>
      cases r with
      | written reply => simp [Task.awaits] at hw
      | fetched reply =>
        rcases reply with _ | _ | snapshot <;>
          simp [conclude, request, Call.confirmedBy, Call.insertFailedBy]

/-- **What makes a conversation cached.**  A conversation is cached just if, since the sender was
last evicted, an insert of it was answered or a fetch of it brought a snapshot. -/
theorem normal_isSome_iff (htest : e.isTest sender = false) (actions : List Action) :
    ((e.after actions).cache.entry sender).normal.isSome = true ↔
      ∃ m ∈ e.sinceEviction sender actions,
        e.confirms sender m = true ∨ e.failsInsert sender m = true := by
  induction actions using List.reverseRecOn with
  | nil => simp [after, run, sinceEviction, moments, momentsFrom, Cache.entry]
  | append_singleton l a ih =>
    rw [after_append, sinceEviction_append, noteEviction]
    -- A reply may add a record and is noted; anything else can only take it away.
    by_cases hreply : ∃ id r, a = .reply id r
    · obtain ⟨id, r, rfl⟩ := hreply
      rw [not_evicts (by simp), if_neg (by simp)]
      cases hactor : (e.after l).actor? (.reply id r) with
      | none =>
        rw [step_of_actor_none hactor (by simp) (by simp), ih]
        simp [List.mem_append, or_and_right, exists_or, confirms, failsInsert,
          exchange?_of_none hactor]
      | some t =>
        have hexchange : e.exchange? sender ⟨l, .reply id r⟩ = _ := exchange?_reply hactor
        rw [entry_step_reply hactor]
        split
        · rename_i hsender
          rw [if_pos hsender] at hexchange
          rw [normal_conclude (EngineState.actor?_reply.1 hactor).2, ih]
          simp [List.mem_append, or_and_right, exists_or, confirms, failsInsert, hexchange,
            hsender]
        · rename_i hsender
          rw [if_neg hsender] at hexchange
          rw [ih]
          simp [List.mem_append, or_and_right, exists_or, confirms, failsInsert, hexchange]
    · have ha : ∀ id r, a ≠ .reply id r := by simpa using hreply
      rw [entry_step htest l ha]
      split
      · simp
      · rw [ih]
        simp [List.mem_append, or_and_right, exists_or, confirms, failsInsert,
          exchange?_of_not_reply ha]

/-! ### Which request a save makes -/

/-- No request is made for a test sender. -/
theorem not_isTest_of_call {m : Moment} {id : Nat} {c : Call} (hcall : .call id c ∈ e.effects m) :
    e.isTest c.senderId = false := by
  obtain ⟨past, a⟩ := m
  obtain ⟨t, hactor, -, rfl⟩ := request_of_call hcall
  rw [senderId_request]
  cases hends : e.ends t a with
  | false => exact (enter_of_not_ends hactor hends).2
  | true =>
    rw [effects, (step_left hactor hends).effects_eq] at hcall
    cases a <;> simp [leave] at hcall

/-- A request is made from the entry of the sender that it is for. -/
theorem request_of_entry {m : Moment} {id : Nat} {c : Call} (hcall : .call id c ∈ e.effects m) :
    ∃ op, e.request ((e.after m.past).cache.entry c.senderId) op = c := by
  obtain ⟨t, -, -, hreq⟩ := request_of_call hcall
  have hsender : c.senderId = t.sender := by
    rw [hreq, senderId_request]
    rfl
  exact ⟨t.operation, by rw [hsender]; exact hreq.symm⟩

/-- What is inserted is not cached. -/
theorem isSome_of_insert {x : Entry} {op : Operation} {req : WriteRequest}
    (h : e.request x op = .insert req) : x.normal.isSome = false := by
  cases op with
  | retrieve sender => cases h
  | save r =>
    rw [request] at h
    split at h
    · cases h
    · exact Bool.eq_false_iff.2 ‹_›

/-- What is updated is cached. -/
theorem isSome_of_update {x : Entry} {op : Operation} {req : WriteRequest}
    (h : e.request x op = .update req) : x.normal.isSome = true := by
  cases op with
  | retrieve sender => cases h
  | save r =>
    rw [request] at h
    split at h
    · assumption
    · cases h

/-- **Once the remote store is known to hold a conversation, it is only updated.**  As long as the
sender is not evicted, no save inserts a conversation of which an insert was acknowledged or a
snapshot was fetched, and each save that goes on with the lock updates it. -/
theorem updates_once_confirmed {past : List Action} (htest : e.isTest sender = false)
    (hconfirmed : ∃ m ∈ e.sinceEviction sender past, e.confirms sender m = true) :
    (∀ a id req, .call id (.insert req) ∈ e.effects ⟨past, a⟩ → req.senderId ≠ sender) ∧
    ∀ id t r, (e.after past).actor? (.enter id) = some t → t.operation = .save r →
      r.senderId = sender →
      ∃ req, req.senderId = sender ∧ .call id (.update req) ∈ e.effects ⟨past, .enter id⟩ := by
  -- A record is cached, and that is all the choice between insert and update looks at.
  have hcached : ((e.after past).cache.entry sender).normal.isSome = true :=
    (normal_isSome_iff htest past).2 (hconfirmed.imp fun _ h => ⟨h.1, .inl h.2⟩)
  refine ⟨?_, ?_⟩
  · rintro a id req hcall rfl
    obtain ⟨op, hreq⟩ := request_of_entry hcall
    exact absurd (hcached.symm.trans (isSome_of_insert hreq)) (by simp)
  · rintro id t r hactor hop rfl
    have hsender := sender_of_save hop
    obtain rfl := EngineState.id_of_task? (EngineState.actor?_enter.1 hactor).1
    have hmem : .call t.id (e.request ((e.after past).cache.entry t.sender) t.operation) ∈
        e.effects ⟨past, .enter t.id⟩ := by
      rw [effects, step_called hactor (by rw [hsender]; exact htest)]
      exact List.mem_append_right _ (List.mem_singleton.2 rfl)
    rw [hsender, hop, request, if_pos hcached] at hmem
    exact ⟨_, rfl, hmem⟩

/-- **What comes before an update.**  Since the sender was last evicted, its conversation was
confirmed to be in the remote store, or an insert of it has failed. -/
theorem update_preceded {m : Moment} {id : Nat} {req : WriteRequest}
    (hcall : .call id (.update req) ∈ e.effects m) :
    ∃ m' ∈ e.sinceEviction req.senderId m.past,
      e.confirms req.senderId m' = true ∨ e.failsInsert req.senderId m' = true := by
  obtain ⟨op, hreq⟩ := request_of_entry hcall
  exact (normal_isSome_iff (not_isTest_of_call hcall) m.past).1 (isSome_of_update hreq)

/-! ### Two conversations -/

/-- A save that is acknowledged, and another one that has just begun. -/
def saveInTwoParts : List Action :=
  savesInTurn [([1], .ok ⟨some 0, some 1⟩)] ++ [.begin 1 (.save (conversation [1, 2]))]

/-- The second save updates what the first one has inserted. -/
theorem updates_second_part : plainEngine.isTest "ann" = false ∧
    (∃ m ∈ plainEngine.sinceEviction "ann" saveInTwoParts, plainEngine.confirms "ann" m = true) ∧
    ∃ req : WriteRequest, req.senderId = "ann" ∧
      .call 1 (.update req) ∈ plainEngine.effects ⟨saveInTwoParts, .enter 1⟩ := by
  have hconfirmed : ∃ m ∈ plainEngine.sinceEviction "ann" saveInTwoParts,
      plainEngine.confirms "ann" m = true := by decide
  refine ⟨rfl, hconfirmed, ?_⟩
  exact (updates_once_confirmed rfl hconfirmed).2 1 _ (conversation [1, 2]) rfl rfl rfl

/-- The same with a sweep in between, long after the first save. -/
def saveAfterSweep : List Action :=
  savesInTurn [([1], .ok ⟨some 0, some 1⟩)] ++
    [.sweep 1000000, .begin 1 (.save (conversation [1, 2]))]

theorem effects_saveAfterSweep : plainEngine.effects ⟨saveAfterSweep, .enter 1⟩ =
    [.call 1 (.insert (plainEngine.writeRequest "ann" (conversation [1, 2])))] := by
  rfl

/-- What is evicted is inserted once more, although the remote store has told that it holds it. -/
theorem inserted_after_eviction :
    ¬ ∀ (e : Engine) (sender : String) (past : List Action) (a : Action) (id : Nat)
      (req : WriteRequest), e.isTest sender = false → (∀ i, .cancel i ∉ past) →
      (∃ m ∈ moments past, e.confirms sender m = true) →
      .call id (.insert req) ∈ e.effects ⟨past, a⟩ → req.senderId ≠ sender := by
  intro h
  have hcall : .call 1 (.insert (plainEngine.writeRequest "ann" (conversation [1, 2]))) ∈
      plainEngine.effects ⟨saveAfterSweep, .enter 1⟩ := by
    rw [effects_saveAfterSweep]
    exact List.mem_singleton.2 rfl
  refine h plainEngine "ann" saveAfterSweep (.enter 1) 1 _ rfl ?_ ?_ hcall rfl
  · simp [saveAfterSweep, savesInTurn]
  · decide

/-- A save whose insert fails, and another one that has just begun. -/
def saveAfterFailure : List Action :=
  savesInTurn [([1], .error (.timeout 30))] ++ [.begin 1 (.save (conversation [1, 2]))]

theorem effects_saveAfterFailure : plainEngine.effects ⟨saveAfterFailure, .enter 1⟩ =
    [.call 1 (.update (plainEngine.writeRequest "ann" (conversation [1, 2])))] := by
  rfl

theorem update_mem_saveAfterFailure :
    .call 1 (.update (plainEngine.writeRequest "ann" (conversation [1, 2]))) ∈
      plainEngine.effects ⟨saveAfterFailure, .enter 1⟩ := by
  rw [effects_saveAfterFailure]
  exact List.mem_singleton.2 rfl

/-- The second save updates a conversation of which the remote store has got nothing. -/
theorem update_preceded_by_failure :
    .call 1 (.update (plainEngine.writeRequest "ann" (conversation [1, 2]))) ∈
      plainEngine.effects ⟨saveAfterFailure, .enter 1⟩ ∧
    ∃ m ∈ plainEngine.sinceEviction "ann" saveAfterFailure,
      plainEngine.confirms "ann" m = true ∨ plainEngine.failsInsert "ann" m = true :=
  ⟨update_mem_saveAfterFailure, update_preceded update_mem_saveAfterFailure⟩

/-- What failed to be inserted is updated all the same. -/
theorem updated_after_failed_insert :
    ¬ ∀ (e : Engine) (past : List Action) (a : Action) (id : Nat) (req : WriteRequest),
      e.isTest req.senderId = false → .call id (.update req) ∈ e.effects ⟨past, a⟩ →
      ∃ m ∈ e.sinceEviction req.senderId past, e.confirms req.senderId m = true := by
  intro h
  have hconfirmed := h plainEngine saveAfterFailure (.enter 1) 1 _ rfl update_mem_saveAfterFailure
  exact absurd hconfirmed (by decide)

end Engine

end DialogueStore
