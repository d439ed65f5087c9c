/-
Fetches that bring nothing new.

A fetch may be answered without events.  The cached events stay then, and a retrieve
returns them.  The cursor is written all the same, and where the answer leaves a value
of it out, the initial value takes its place: `Engine.empty_fetch` says what the cursor
is afterwards, and that the next requests are the ones that would have been made before
just if no value is lost in that way.  It can be (`Engine.empty_fetch_moves_back`).

* `Engine.entry_of_untouched` — what is cached for a sender stays while no reply arrives
  for it and it is not evicted,
* `Engine.requests_of_entry` — what the next requests for a sender are, from what is
  cached.
-/
import DialogueStore.Proofs.FirstWrite
import DialogueStore.Proofs.Records

namespace DialogueStore

/-- Without new events the cached ones stay, unless no events at all may be asked for. -/
theorem Record.events_merge_nil {sender : String} {cached remote : Record} {maxEvents : Nat}
    (hmax : maxEvents ≠ 0) (hempty : remote.events = []) :
    (Record.merge sender (some cached) remote maxEvents).events = cached.events := by
  have hnot : remote.events.length ≠ maxEvents := by
    rw [hempty, List.length_nil]
    exact hmax.symm
  rw [events_merge, if_neg hnot, hempty]
  exact List.append_nil _

namespace Engine

variable {e : Engine} {sender : String} {past later : List Action} {t : Task} {id : Nat}

/-- In the rest of a run, no reply arrives for a sender, and it is not evicted. -/
def Untouched (e : Engine) (sender : String) (past later : List Action) : Prop :=
  ∀ m ∈ momentsFrom past later,
    (∀ t id r, e.actor? m = some t → m.action = .reply id r → t.sender ≠ sender) ∧
    (e.effects m).any (Effect.evicts sender) = false

/-- What is cached for an untouched sender stays. -/
theorem entry_of_untouched (htest : e.isTest sender = false)
    (huntouched : e.Untouched sender past later) :
    (e.after (past ++ later)).cache.entry sender = (e.after past).cache.entry sender := by
  induction later using List.reverseRecOn with
  | nil => rw [List.append_nil]
  | append_singleton l a ih =>
    rw [Untouched, momentsFrom_append, List.forall_mem_append, List.forall_mem_singleton]
      at huntouched
    obtain ⟨hbefore, hreply, hkept⟩ := huntouched
    have ih := ih hbefore
    rw [← List.append_assoc, after_append, ← ih]
    by_cases ha : ∃ id r, a = .reply id r
    · obtain ⟨id, r, rfl⟩ := ha
      cases hactor : (e.after (past ++ l)).actor? (.reply id r) with
      | none => rw [step_of_actor_none hactor (by simp) (by simp)]
      | some t => rw [entry_step_reply hactor, if_neg (hreply t id r hactor rfl)]
    · rw [entry_step htest _ (by simpa using ha), if_neg (by simp [hkept])]

/-- **What the next requests for a sender are.**  With a record and a cursor cached, a fetch asks
for what comes after the cursor, no save inserts, and an update sends nothing that is not later. -/
theorem requests_of_entry {x : Entry} {cursor : Cursor} {a : Action}
    (hentry : (e.after past).cache.entry sender = x) (hrecord : x.normal.isSome = true)
    (hcursor : x.cursor = some cursor) :
    (∀ req, .call id (.fetch req) ∈ e.effects ⟨past, a⟩ → req.senderId = sender →
      req.after = cursor.lastIndex) ∧
    (∀ req, .call id (.insert req) ∈ e.effects ⟨past, a⟩ → req.senderId ≠ sender) ∧
    (∀ req, .call id (.update req) ∈ e.effects ⟨past, a⟩ → req.senderId = sender →
      ∀ event ∈ req.tracker.events, cursor.lastTimestamp < event.timestamp) := by
  have hlast : x.lastCursor = cursor := by
    rw [Entry.lastCursor, hcursor]
    rfl
  refine ⟨?_, ?_, ?_⟩
  · rintro req hcall rfl
    obtain ⟨op, hreq⟩ := request_of_entry hcall
    rw [Call.senderId, hentry] at hreq
    cases op with
    | save r =>
      rw [request] at hreq
      split at hreq <;> cases hreq
    | retrieve sender =>
      rw [request, hlast] at hreq
      cases hreq
      rfl
  · rintro req hcall rfl
    obtain ⟨op, hreq⟩ := request_of_entry hcall
    rw [Call.senderId, hentry] at hreq
    -- An insert is sent only where no record is cached.
    have hnone := isSome_of_insert hreq
    rw [hrecord] at hnone
    cases hnone
  · rintro req hcall rfl event hevent
    obtain ⟨op, hreq⟩ := request_of_entry hcall
    rw [Call.senderId, hentry] at hreq
    cases op with
    | save r =>
      rw [request, if_pos hrecord, hlast] at hreq
      cases hreq
      -- An update has been cut at the cursor.
      exact of_decide_eq_true (List.mem_filter.1 hevent).2
    | retrieve sender => cases hreq

/-- A task that a fetched snapshot reaches is a retrieve of a sender that is no test sender. -/
theorem retrieve_of_fetched {reply : FetchReply}
    (hactor : (e.after past).actor? (.reply id (.fetched reply)) = some t) :
    t.operation = .retrieve t.sender ∧ e.isTest t.sender = false := by
  obtain ⟨htask, hw⟩ := EngineState.actor?_reply.1 hactor
  have hcalls := (e.sound_after past).calls t (EngineState.mem_of_task? htask)
  obtain ⟨tid, op, handle, stage⟩ := t
  cases stage with
  | queued => simp [Task.awaits] at hw
  | calling c =>
    cases op with
    | save record => simp [Task.awaits] at hw
    | retrieve sender => exact ⟨rfl, (hcalls c rfl).1⟩

/-- Only a save gets the reply to a write. -/
theorem save_of_written {reply : WriteReply}
    (hactor : (e.after past).actor? (.reply id (.written reply)) = some t) :
    ∃ r, t.operation = .save r := by
  have hw := (EngineState.actor?_reply.1 hactor).2
  obtain ⟨tid, op, handle, stage⟩ := t
  cases op with
  | save r => exact ⟨r, rfl⟩
  | retrieve sender => cases stage <;> cases hw

/-- A fetch without events puts a record with the cached events, and whatever cursor it brings. -/
theorem entry_empty_fetch {snapshot : Snapshot} {r : Record} (hmax : e.config.maxEvents ≠ 0)
    (hactor : (e.after past).actor? (.reply id (.fetched (.ok (some snapshot)))) = some t)
    (hrecord : (e.after past).cache.get? .normal t.sender = some r)
    (hempty : snapshot.tracker.events = []) :
    ∃ r', r'.events = r.events ∧
      (e.after (past ++ [.reply id (.fetched (.ok (some snapshot)))])).cache.entry t.sender =
        { (e.after past).cache.entry t.sender with
          normal := some r', cursor := some snapshot.cursor } ∧
      e.effects ⟨past, .reply id (.fetched (.ok (some snapshot)))⟩ =
        [.done t.id (.retrieved (some r'))] := by
  have hnormal : ((e.after past).cache.entry t.sender).normal = some r := hrecord
  have hleft := step_reply_left (e := e) hactor
  obtain ⟨r', hr'⟩ : ∃ r', Record.merge t.sender (some r) snapshot.tracker
      e.config.maxEvents.toNat = r' := ⟨_, rfl⟩
  -- The merged record replaces the cached one, and nothing else of the entry changes but the
  -- cursor.
  have hleave : e.leave ((e.after past).cache.entry t.sender) t
      (.reply id (.fetched (.ok (some snapshot)))) =
      ({ (e.after past).cache.entry t.sender with
          normal := some r', cursor := some snapshot.cursor },
        [.done t.id (.retrieved (some r'))]) := by
    rw [leave, (retrieve_of_fetched hactor).1]
    simp only [conclude, hnormal, hr']
  refine ⟨r', ?_, ?_, ?_⟩
  · rw [← hr']
    exact Record.events_merge_nil (fun hzero => hmax (UInt64.toNat_inj.1 hzero)) hempty
  · rw [after_append, hleft.entry, if_pos rfl, hleave]
  · rw [effects, hleft.effects_eq, hleave]

/-- **What a fetch without events does.**  Let a record and a cursor be cached for a sender, and let
a retrieve be answered without events, with a cursor each of whose values is the cached one or left
out.  The cached events stay and are returned.  The cursor afterwards has the initial value where
the answer leaves one out, so that it is the same as before just if only initial values are left
out.  If so, the next fetch asks after the same index, and the next save updates and sends only what
is later than the cursor was, whatever happens to other senders meanwhile. -/
theorem empty_fetch {snapshot : Snapshot} {r : Record} {index : Int} {time : Float}
    (hmax : e.config.maxEvents ≠ 0)
    (hactor : (e.after past).actor? (.reply id (.fetched (.ok (some snapshot)))) = some t)
    (hrecord : (e.after past).cache.get? .normal t.sender = some r)
    (hcursor : (e.after past).cache.cursors.get? t.sender = some ⟨index, time⟩)
    (hempty : snapshot.tracker.events = [])
    (hindex : ∀ i ∈ snapshot.lastIndex, i = index)
    (htime : ∀ u ∈ snapshot.lastTimestamp, u = time) :
    let fetched := past ++ [.reply id (.fetched (.ok (some snapshot)))]
    (∃ r', (e.after fetched).cache.get? .normal t.sender = some r' ∧ r'.events = r.events ∧
      e.effects ⟨past, .reply id (.fetched (.ok (some snapshot)))⟩ =
        [.done t.id (.retrieved (some r'))]) ∧
    (e.after fetched).cache.cursors.get? t.sender =
      some ⟨snapshot.lastIndex.getD (-1), snapshot.lastTimestamp.getD 0⟩ ∧
    ((e.after fetched).cache.cursors.get? t.sender =
        (e.after past).cache.cursors.get? t.sender ↔
      (snapshot.lastIndex = none → index = -1) ∧ (snapshot.lastTimestamp = none → time = 0)) ∧
    ((snapshot.lastIndex = none → index = -1) → (snapshot.lastTimestamp = none → time = 0) →
      ∀ later a i, e.Untouched t.sender fetched later →
        (∀ req, .call i (.fetch req) ∈ e.effects ⟨fetched ++ later, a⟩ →
          req.senderId = t.sender → req.after = index) ∧
        (∀ req, .call i (.insert req) ∈ e.effects ⟨fetched ++ later, a⟩ →
          req.senderId ≠ t.sender) ∧
        (∀ req, .call i (.update req) ∈ e.effects ⟨fetched ++ later, a⟩ →
          req.senderId = t.sender → ∀ event ∈ req.tracker.events, time < event.timestamp)) := by
  intro fetched
  -- One fact about the entry afterwards is enough for all parts.
  obtain ⟨r', hevents, hentry, heffects⟩ := entry_empty_fetch hmax hactor hrecord hempty
  have hcursor' : (e.after fetched).cache.cursors.get? t.sender =
      some ⟨snapshot.lastIndex.getD (-1), snapshot.lastTimestamp.getD 0⟩ :=
    congrArg Entry.cursor hentry
  have hsame : (e.after fetched).cache.cursors.get? t.sender =
      (e.after past).cache.cursors.get? t.sender ↔
      (snapshot.lastIndex = none → index = -1) ∧
        (snapshot.lastTimestamp = none → time = 0) := by
    rw [hcursor', hcursor, Option.some.injEq, Cursor.mk.injEq]
    -- A value that is not left out is the cached one, so that only the others can differ.
    refine and_congr ?_ ?_
    · cases hi : snapshot.lastIndex with
      | none => simp [eq_comm]
      | some i => simpa using hindex i hi
    · cases hu : snapshot.lastTimestamp with
      | none => simp [eq_comm]
      | some u => simpa using htime u hu
  refine ⟨⟨r', congrArg Entry.normal hentry, hevents, heffects⟩, hcursor', hsame, ?_⟩
  intro hi hu later a i huntouched
  have htest := (retrieve_of_fetched hactor).2
  have hkept := (hsame.2 ⟨hi, hu⟩).trans hcursor
  refine requests_of_entry (entry_of_untouched htest huntouched) ?_ hkept
  rw [hentry]
  rfl

/-! ### Two fetches -/

/-- A retrieve that brings an event, and another one that is under way. -/
def retrieveTwice : List Action :=
  [.begin 0 (.retrieve "ann"), .enter 0,
    .reply 0 (.fetched (.ok (some ⟨conversation [1], some 0, some 1⟩))),
    .begin 1 (.retrieve "ann"), .enter 1]

/-- The task that waits for the second answer. -/
def secondRetrieve : Task :=
  ⟨1, .retrieve "ann", 1, .calling (.fetch (plainEngine.fetchRequest "ann" ⟨0, 1⟩))⟩

/-- The second answer comes without events, and with the whole cursor. -/
def answerAgain : Action := .reply 1 (.fetched (.ok (some ⟨{}, some 0, some 1⟩)))

theorem actor?_answerAgain :
    (plainEngine.after retrieveTwice).actor? answerAgain = some secondRetrieve := by
  rfl

/-- With the whole cursor in the answer, nothing changes. -/
theorem empty_fetch_repeats :
    (plainEngine.after (retrieveTwice ++ [answerAgain])).cache.cursors.get? "ann" =
      (plainEngine.after retrieveTwice).cache.cursors.get? "ann" := by
  have hfetch := empty_fetch (e := plainEngine) (r := conversation [1]) (by decide)
    actor?_answerAgain rfl (by rfl) rfl (by rintro _ ⟨⟩; rfl) (by rintro _ ⟨⟩; rfl)
  exact hfetch.2.2.1.2 ⟨nofun, nofun⟩

/-- Without the time in the answer, the cursor goes back to the time before all events. -/
theorem empty_fetch_moves_back :
    ¬ ∀ (e : Engine) (past : List Action) (t : Task) (id : Nat) (snapshot : Snapshot) (r : Record)
      (index : Int) (time : Float), e.config.maxEvents ≠ 0 →
      (e.after past).actor? (.reply id (.fetched (.ok (some snapshot)))) = some t →
      (e.after past).cache.get? .normal t.sender = some r →
      (e.after past).cache.cursors.get? t.sender = some ⟨index, time⟩ →
      snapshot.tracker.events = [] → (∀ i ∈ snapshot.lastIndex, i = index) →
      (∀ u ∈ snapshot.lastTimestamp, u = time) →
      (e.after (past ++ [.reply id (.fetched (.ok (some snapshot)))])).cache.cursors.get?
        t.sender = some ⟨index, time⟩ := by
  intro h
  have hsame := h plainEngine retrieveTwice secondRetrieve 1 ⟨{}, some 0, none⟩ (conversation [1])
    0 1 (by decide) rfl rfl rfl rfl (by rintro _ ⟨⟩; rfl) nofun
  have hback : (plainEngine.after (retrieveTwice ++
      [.reply 1 (.fetched (.ok (some ⟨{}, some 0, none⟩)))])).cache.cursors.get? "ann" =
      some ⟨0, 0⟩ := rfl
  have htime : (0 : Float) = 1 := by
    have hcursors := Option.some.inj (hback.symm.trans hsame)
    exact congrArg Cursor.lastTimestamp hcursors
  exact absurd htime (by decide)

end Engine

end DialogueStore
