/-
Where cursors come from, and what requests take from them.

The cursor of a sender decides what the next request asks for or sends, and it is
written in many places: two kinds of writes, fetches, failures, dropped tasks and
sweeps.  `Engine.acknowledged` is the history of it, read off a run from outside,
and `Engine.cursor_provenance` says that the cache agrees with it at every moment
and that each request is made with the cursor of its own moment.
-/
import DialogueStore.Proofs.History

namespace DialogueStore

/-- The cursor that a successful reply brings. -/
def Reply.cursor? : Reply → Option RemoteCursor
  | .fetched (.ok (some snapshot)) => some ⟨snapshot.lastIndex, snapshot.lastTimestamp⟩
  | .written (.ok cursor) => some cursor
  | _ => none

/-- Whether an effect tells that a sender was evicted. -/
def Effect.evicts (sender : String) : Effect → Bool
  | .swept report => report.evicted.contains sender
  | _ => false

namespace Engine

variable (e : Engine)

/-- What a moment makes of the last acknowledged cursor of a sender. -/
def acknowledge (sender : String) (last : Option RemoteCursor) (m : Moment) :
    Option RemoteCursor :=
  match m.action with
  | .reply _ r => if (e.actor? m).any fun t => t.sender = sender then r.cursor?.or last else last
  | .sweep _ => if (e.effects m).any (Effect.evicts sender) then none else last
  | _ => last

/-- The cursor of the last successful reply that a task of the sender received since the sender was
last evicted. -/
def acknowledged (sender : String) (actions : List Action) : Option RemoteCursor :=
  (moments actions).foldl (e.acknowledge sender) none

theorem acknowledged_append (sender : String) (l : List Action) (a : Action) :
    e.acknowledged sender (l ++ [a]) = e.acknowledge sender (e.acknowledged sender l) ⟨l, a⟩ := by
  simp [acknowledged]

variable {e} {s : EngineState} {t : Task} {a : Action} {sender : String}

/-- A reply that its task has waited for sets the cursor if it brings one. -/
theorem cursor_conclude {r : Reply} (hw : t.awaits r = true) (x : Entry) :
    (e.conclude x t.operation r).1.cursor = (r.cursor?.map RemoteCursor.toCursor).or x.cursor := by
  obtain ⟨id, op, handle, stage⟩ := t
  cases stage with
  | queued => simp [Task.awaits] at hw
  | calling c =>
    cases op with
    | save record =>
      cases r with
      | fetched reply => simp [Task.awaits] at hw
      | written reply => cases reply <;> rfl
    | retrieve sender =>
      cases r with
      | written reply => simp [Task.awaits] at hw
      | fetched reply => rcases reply with _ | _ | snapshot <;> rfl

/-- A task that leaves without a reply leaves the cursor as it is. -/
theorem cursor_leave (ha : ∀ id r, a ≠ .reply id r) (x : Entry) :
    (e.leave x t a).1.cursor = x.cursor := by
  cases a with
  | reply id r => exact absurd rfl (ha id r)
  | enter id =>
    rw [leave]
    cases t.operation <;> rfl
  | begin _ _ | cancel _ | sweep _ => rfl

/-- Evicting a sender drops its cursor, and whoever is kept keeps it. -/
theorem cursor_sweep (x : Entry) (policy : Retention) (now : Float) :
    (x.sweep policy now).cursor = if x.isEvicted policy now then none else x.cursor := by
  cases h : x.isEvicted policy now with
  | true => exact Entry.cursor_sweep_of_isEvicted h
  | false =>
    rw [Entry.sweep_of_not_isEvicted h]
    rfl

/-- A sender is evicted where its lock is free and a record of it is stale. -/
theorem evicts_iff (l : List Action) (now : Float) (sender : String) :
    (e.effects ⟨l, .sweep now⟩).any (Effect.evicts sender) = true ↔
      (e.after l).cache.locks.isLocked sender = false ∧
        ((e.after l).cache.entry sender).isEvicted e.config.retention now = true := by
  obtain ⟨-, -, -, hevicted⟩ :=
    (e.after l).cache.sweepAt_spec (e.sound_after l).coherent e.config.retention now
  rw [← hevicted]
  simp [effects, step, Effect.evicts]

/-- A sweep drops the cursors of those whom it evicts. -/
theorem cursor_sweepAt (l : List Action) (now : Float) (sender : String) :
    (((e.after l).cache.sweepAt e.config.retention now).1.entry sender).cursor =
      if (e.effects ⟨l, .sweep now⟩).any (Effect.evicts sender) then none
      else ((e.after l).cache.entry sender).cursor := by
  obtain ⟨-, -, hentry, -⟩ :=
    (e.after l).cache.sweepAt_spec (e.sound_after l).coherent e.config.retention now
  have hevicts := evicts_iff (e := e) l now sender
  rw [hentry]
  cases hlocked : (e.after l).cache.locks.isLocked sender with
  | true => rw [if_pos rfl, if_neg (by rw [hevicts, hlocked]; simp)]
  | false =>
    rw [if_neg (by simp), cursor_sweep]
    simp only [hevicts, hlocked, true_and]

variable (e) in
/-- The cache holds the last acknowledged cursor. -/
theorem entry_cursor (actions : List Action) (sender : String) :
    ((e.after actions).cache.entry sender).cursor =
      (e.acknowledged sender actions).map RemoteCursor.toCursor := by
  induction actions using List.reverseRecOn with
  | nil => rfl
  | append_singleton l a ih =>
    have h := transition (e := e) (e.after l) a
    rw [acknowledged_append, after_append, acknowledge, actor?]
    generalize (e.step (e.after l) a).1 = s', (e.step (e.after l) a).2 = effects at h ⊢
    -- Only a reply to one of the sender's tasks and a sweep touch the cursor.
    cases h with
    | ignored hactor _ hsweep =>
      cases a with
      | reply id r => simpa [hactor] using ih
      | sweep now => exact absurd rfl hsweep
      | begin _ _ | enter _ | cancel _ => exact ih
    | queued _ _ _ hentry =>
      rw [hentry]
      exact ih
    | called => exact ih
    | left hactor _ hleft =>
      rw [hleft.entry]
      cases a with
      | begin _ _ | sweep _ => cases hactor
      | enter _ | cancel _ =>
        rw [← ih]
        split
        · exact cursor_leave (by simp) _
        · rfl
      -- A reply that ends its task leaves the cursor it carries, if it carries one.
      | reply id r =>
        have hw := (EngineState.actor?_reply.1 hactor).2
        simp only [hactor, Option.any_some, decide_eq_true_eq]
        split
        · rw [leave, cursor_conclude hw, ih]
          cases r.cursor? <;> rfl
        · exact ih
    | swept now =>
      -- A sweep forgets the cursor where it evicts, and so does `acknowledge`.
      rw [cursor_sweepAt]
      dsimp only
      split
      · rfl
      · exact ih

variable (e)

/-- **Where cursors come from, and what requests take from them.**  At every moment the cursor of a
sender is that of the last successful reply that one of its tasks received since its last eviction,
or else the initial one.  A fetch asks for what comes after it, and an update sends those events of
the saved and anonymized record that are strictly later, in their order, and the rest of the record
as it is. -/
theorem cursor_provenance (past : List Action) :
    (∀ sender, (e.after past).cache.cursor sender =
      match e.acknowledged sender past with
      | some cursor => ⟨cursor.lastIndex.getD (-1), cursor.lastTimestamp.getD 0⟩
      | none => ⟨-1, 0⟩) ∧
    (∀ a id req, .call id (.fetch req) ∈ (e.step (e.after past) a).2 →
      req.after = ((e.after past).cache.cursor req.senderId).lastIndex) ∧
    (∀ a id req, .call id (.update req) ∈ (e.step (e.after past) a).2 →
      ∃ r, e.begun past id = some (.save r) ∧ req.senderId = r.senderId ∧
        req.tracker = { r.anonymize e.anonymize with
          events := (r.anonymize e.anonymize).events.filter fun event => decide
            (((e.after past).cache.cursor r.senderId).lastTimestamp < event.timestamp) }) := by
  refine ⟨fun sender => ?_, fun a id req hcall => ?_, fun a id req hcall => ?_⟩
  · rw [Cache.cursor_eq, Entry.lastCursor, entry_cursor]
    cases e.acknowledged sender past <;> rfl
  · obtain ⟨t, hactor, rfl, hreq⟩ := request_of_call hcall
    -- Only a retrieve fetches.
    cases hop : t.operation with
    | save r =>
      rw [hop, request] at hreq
      split at hreq <;> cases hreq
    | retrieve sender =>
      rw [hop, request, sender_of_retrieve hop] at hreq
      cases hreq
      rfl
  · obtain ⟨t, hactor, rfl, hreq⟩ := request_of_call hcall
    obtain ⟨op, hbegun, hanon⟩ := e.begun_of_task past (EngineState.mem_of_actor? hactor)
    cases op with
    | retrieve sender =>
      rw [← hanon] at hreq
      cases hreq
    | save r =>
      -- The task holds the record with its texts anonymized, and the sender is not one of them.
      have hsender : t.sender = r.senderId := by rw [Task.sender, ← hanon]; rfl
      rw [← hanon, hsender, Operation.anonymize, request] at hreq
      split at hreq
      · cases hreq
        exact ⟨r, hbegun, rfl, rfl⟩
      · cases hreq

end Engine

end DialogueStore
