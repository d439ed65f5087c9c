/-
What a remote store gets of a conversation that grows.

A conversation is saved again and again, each time with more events, and any of
the writes may fail.  `Engine.writes` are the writes of a sender in a run, and
`Engine.delivered_iff` says when the requests that were acknowledged carry the
last record exactly: if no acknowledged record was continued at a time at which
it already had an event.
-/
import DialogueStore.Proofs.CutOff
import DialogueStore.Proofs.Provenance

namespace DialogueStore

/-- The events that a request carries. -/
def Call.events : Call → List Event
  | .insert r => r.tracker.events
  | .update r => r.tracker.events
  | .fetch _ => []

namespace Engine

variable (e : Engine)

/-- The write of the sender that a moment brings to its end. -/
def write? (sender : String) (m : Moment) : Option Write :=
  match m.action, e.actor? m with
  | .reply _ (.written reply), some ⟨_, .save r, _, .calling call⟩ =>
    if r.senderId = sender then some ⟨r, call.events, reply⟩ else none
  | _, _ => none

/-- The writes of a sender that came to an end, in their order. -/
def writes (sender : String) (actions : List Action) : List Write :=
  (moments actions).filterMap (e.write? sender)

theorem writes_append (sender : String) (l : List Action) (a : Action) :
    e.writes sender (l ++ [a]) = e.writes sender l ++ (e.write? sender ⟨l, a⟩).toList := by
  cases h : e.write? sender ⟨l, a⟩ <;> simp [writes, h]

/-- A sender is only saved to, and never evicted. -/
structure OnlySaves (sender : String) (actions : List Action) : Prop where
  saves : ∀ id, .begin id (.retrieve sender) ∉ actions
  kept : ∀ m ∈ moments actions, (e.effects m).any (Effect.evicts sender) = false

/-- What is cached for a sender goes with its writes so far: the first one sends everything, and each
later one what is after the cut-off. -/
structure Tracks (x : Entry) (ws : List Write) : Prop where
  cursor : x.cursor = (ws.filterMap (·.reply.toOption)).getLast?.map RemoteCursor.toCursor
  cached : x.normal = none ↔ ws = []
  sent : ∀ past w, past ++ [w] <+: ws → w.sent =
    if past = [] then w.record.events
    else w.record.events.filter fun event => cutOff past < event.timestamp

variable {e} {sender : String} {x : Entry} {ws : List Write}

theorem tracks_empty : Tracks {} [] := by
  refine ⟨rfl, by simp, ?_⟩
  intro past w hp
  simp at hp

/-- A write is sent with the cut-off that the writes before have left. -/
theorem Tracks.events_request (h : Tracks x ws) (r : Record) :
    (e.request x (.save r)).events =
      if ws = [] then r.events else r.events.filter fun event => cutOff ws < event.timestamp := by
  have hcut : x.lastCursor.lastTimestamp = cutOff ws := by
    rw [Entry.lastCursor, h.cursor, cutOff]
  rw [request]
  by_cases hws : ws = []
  · simp [hws, h.cached.2 hws, Call.events, writeRequest]
  · have hsome : x.normal.isSome = true := by
      rw [Option.isSome_iff_ne_none]
      exact fun hnone => hws (h.cached.1 hnone)
    simp [hws, hsome, Call.events, writeRequest, Record.withEvents, Record.eventsAfter, hcut]

theorem Tracks.append (h : Tracks x ws) (r : Record) (reply : WriteReply) :
    Tracks (e.conclude x (.save r) (.written reply)).1
      (ws ++ [⟨r, (e.request x (.save r)).events, reply⟩]) := by
  refine ⟨?_, ?_, ?_⟩
  · cases reply with
    | error cause => simpa [conclude, Except.toOption] using h.cursor
    | ok cursor => simp [conclude, Except.toOption]
  · cases reply <;> simp [conclude]
  · intro past w hp
    rcases List.prefix_concat_iff.1 hp with heq | hp
    · obtain ⟨rfl, hw⟩ := List.append_inj' heq rfl
      obtain rfl : w = _ := by simpa using hw
      exact h.events_request r
    · exact h.sent past w hp

/-- Beside its test record the entry stays as it is. -/
theorem Tracks.congr {y : Entry} (h : Tracks x ws) (hnormal : y.normal = x.normal)
    (hcursor : y.cursor = x.cursor) : Tracks y ws :=
  ⟨hcursor.trans h.cursor, by rw [hnormal]; exact h.cached, h.sent⟩

theorem OnlySaves.of_append {l : List Action} {a : Action}
    (h : e.OnlySaves sender (l ++ [a])) : e.OnlySaves sender l where
  saves := fun id hm => h.saves id (List.mem_append_left _ hm)
  kept := fun m hm => h.kept m (by rw [moments_append]; exact List.mem_append_left _ hm)

/-- The tasks of such a sender are saves. -/
theorem OnlySaves.operation_eq {l : List Action} (h : e.OnlySaves sender l) {t : Task}
    (ht : t ∈ (e.after l).tasks) (hsender : t.sender = sender) :
    ∃ r, t.operation = .save r := by
  obtain ⟨op, hbegun, hop⟩ := e.begun_of_task l ht
  cases op with
  | save r => exact ⟨_, hop.symm⟩
  | retrieve s =>
    obtain rfl : s = sender := (sender_of_retrieve hop.symm).symm.trans hsender
    exact absurd (e.mem_of_begun hbegun) (h.saves _)

/-- A sweep that does not evict the sender leaves its entry as it is. -/
theorem OnlySaves.entry_sweep {l : List Action} {now : Float}
    (h : e.OnlySaves sender (l ++ [.sweep now])) :
    ((e.after l).cache.sweepAt e.config.retention now).1.entry sender =
      (e.after l).cache.entry sender := by
  obtain ⟨-, -, hentry, -⟩ :=
    (e.after l).cache.sweepAt_spec (e.sound_after l).coherent e.config.retention now
  have hkept := h.kept ⟨l, .sweep now⟩ (by simp)
  rw [hentry]
  cases hlocked : (e.after l).cache.locks.isLocked sender with
  | true => rw [if_pos rfl]
  | false =>
    rw [if_neg (by simp)]
    refine Entry.sweep_of_not_isEvicted ?_
    rw [Bool.eq_false_iff]
    intro hevicted
    rw [(evicts_iff l now sender).2 ⟨hlocked, hevicted⟩] at hkept
    cases hkept

theorem writes_of_actor_none {l : List Action} {a : Action}
    (hactor : (e.after l).actor? a = none) : e.writes sender (l ++ [a]) = e.writes sender l := by
  have hnone : e.write? sender ⟨l, a⟩ = none := by
    rw [write?, actor?, hactor]
    cases a with
    | reply id r => cases r <;> rfl
    | begin _ _ | enter _ | cancel _ | sweep _ => rfl
  rw [writes_append, hnone, Option.toList_none, List.append_nil]

theorem writes_of_not_reply {l : List Action} {a : Action} (ha : ∀ id r, a ≠ .reply id r) :
    e.writes sender (l ++ [a]) = e.writes sender l := by
  have hnone : e.write? sender ⟨l, a⟩ = none := by
    cases a with
    | reply id r => exact absurd rfl (ha id r)
    | begin _ _ | enter _ | cancel _ | sweep _ => rfl
  rw [writes_append, hnone, Option.toList_none, List.append_nil]

theorem writes_of_sender_ne {l : List Action} {a : Action} {t : Task}
    (hactor : (e.after l).actor? a = some t) (hsender : t.sender ≠ sender) :
    e.writes sender (l ++ [a]) = e.writes sender l := by
  have hnone : e.write? sender ⟨l, a⟩ = none := by
    rw [write?, actor?, hactor]
    split
    · rename_i h
      cases h
      exact if_neg hsender
    · rfl
  rw [writes_append, hnone, Option.toList_none, List.append_nil]

/-- A reply ends a write of its task's sender. -/
theorem writes_reply {l : List Action} {id : Nat} {r : Reply} {t : Task}
    (hactor : (e.after l).actor? (.reply id r) = some t) {record : Record}
    (hop : t.operation = .save record) (hsender : t.sender = sender) :
    ∃ reply, r = .written reply ∧ e.writes sender (l ++ [.reply id r]) = e.writes sender l ++
      [⟨record, (e.request ((e.after l).cache.entry sender) (.save record)).events, reply⟩] := by
  obtain ⟨htask, hw⟩ := EngineState.actor?_reply.1 hactor
  cases hq : t.stage with
  | queued => simp [Task.awaits, hq] at hw
  | calling call =>
    cases r with
    | fetched reply => simp [Task.awaits, hq, hop] at hw
    | written reply =>
      -- The request was made with the entry of its time, which is still the same.
      have hcall := ((e.sound_after l).calls t (EngineState.mem_of_task? htask) call hq).2
      have hsome : e.write? sender ⟨l, .reply id (.written reply)⟩ =
          some ⟨record, call.events, reply⟩ := by
        rw [write?, actor?, hactor]
        obtain ⟨tid, op, handle, stage⟩ := t
        cases hop
        cases hq
        exact if_pos hsender
      refine ⟨reply, rfl, ?_⟩
      rw [writes_append, hsome, ← hop, ← hsender, ← hcall, Option.toList_some]

/-- The entry goes with the writes throughout a run. -/
theorem tracks_after {actions : List Action} (h : e.OnlySaves sender actions) :
    Tracks ((e.after actions).cache.entry sender) (e.writes sender actions) := by
  induction actions using List.reverseRecOn with
  | nil => exact tracks_empty
  | append_singleton l a ih =>
    have hl := ih h.of_append
    have htrans := transition (e := e) (e.after l) a
    rw [after_append]
    generalize (e.step (e.after l) a).1 = s', (e.step (e.after l) a).2 = effects at htrans ⊢
    -- The entry changes with a reply, and there a write is added.
    cases htrans with
    | ignored hactor =>
      rw [writes_of_actor_none hactor]
      exact hl
    | queued _ _ _ hentry =>
      rw [hentry, writes_of_not_reply (by simp)]
      exact hl
    | called =>
      rw [writes_of_not_reply (by simp)]
      exact hl
    | swept now =>
      rw [writes_of_not_reply (by simp), h.entry_sweep]
      exact hl
    | @left _ t _ _ hactor _ hleft =>
      rw [hleft.entry]
      by_cases hsender : t.sender = sender
      · -- All operations of this sender are saves, so that a request is a write.
        obtain ⟨record, hop⟩ :=
          h.of_append.operation_eq (EngineState.mem_of_actor? hactor) hsender
        rw [if_pos hsender]
        cases a with
        | begin _ _ | sweep _ => cases hactor
        | enter id =>
          rw [writes_of_not_reply (by simp), leave, hop]
          exact hl.congr rfl rfl
        | cancel id =>
          rw [writes_of_not_reply (by simp)]
          exact hl
        | reply id r =>
          obtain ⟨reply, rfl, hwrites⟩ := writes_reply hactor hop hsender
          rw [hwrites, leave, hop]
          exact hl.append record reply
      · rw [if_neg hsender, writes_of_sender_ne hactor hsender]
        exact hl

/-- The first write sends all events, and they are all later than nothing. -/
theorem Tracks.sendsLater (h : Tracks x ws)
    (hpos : ∀ w ∈ ws, ∀ event ∈ w.record.events, 0 < event.timestamp) : SendsLater ws := by
  intro past w hp
  rw [h.sent past w hp]
  split
  · rename_i hpast
    subst hpast
    have hw : w ∈ ws := hp.subset (by simp)
    have hzero : cutOff [] = 0 := rfl
    exact (List.filter_eq_self.2 fun event hm => by
      simpa [hzero] using hpos w hw event hm).symm
  · rfl

/-- **What is delivered of a conversation that grows.**  Whichever writes fail, once the last one is
acknowledged the remote store has got a part of the last record, in its order and no event twice.
It has got all of it just if, of each two successive acknowledged records, what the later one adds
is strictly later than all of the earlier one.  (A test sender has no writes.) -/
theorem delivered_iff {actions : List Action} (hsaves : e.OnlySaves sender actions)
    (horderly : Orderly (e.writes sender actions)) {past : List Write} {w : Write}
    {cursor : RemoteCursor} (hlast : e.writes sender actions = past ++ [w])
    (hack : w.reply = .ok cursor) :
    (storedEvents (e.writes sender actions)).Sublist w.record.events ∧
    (storedEvents (e.writes sender actions) = w.record.events ↔
      ((e.writes sender actions).filter (·.isAcknowledged)).IsChain Write.Later) := by
  have hprogress := horderly.progress ((tracks_after hsaves).sendsLater horderly.positive)
  have hall : acknowledgedEvents (e.writes sender actions) = w.record.events := by
    simp [acknowledgedEvents, hlast, List.filter_append, Write.isAcknowledged, hack,
      Except.toOption]
  rw [← hall]
  exact ⟨hprogress.part, hprogress.exact_iff⟩

/-! ### Two conversations -/

/-- A conversation with events at these times. -/
def conversation (times : List Float) : Record :=
  { senderId := "ann", events := times.map fun time => ⟨"bot", time, []⟩ }

/-- An engine that neither tests nor rewrites anything. -/
def plainEngine : Engine := ⟨{}, fun _ => false, id, false, none⟩

/-- The same with somebody who listens to what is saved. -/
def heardEngine : Engine := { plainEngine with broadcasts := true }

/-- Saves one conversation after another, each with its reply. -/
def savesInTurn (saves : List (List Float × WriteReply)) : List Action :=
  saves.zipIdx.flatMap fun ((times, reply), id) =>
    [.begin id (.save (conversation times)), .enter id, .reply id (.written reply)]

/-- Three saves of which the second one fails. -/
def savesWithFailure : List Action :=
  savesInTurn [([1], .ok ⟨some 0, some 1⟩), ([1, 2], .error (.timeout 30)),
    ([1, 2, 3], .ok ⟨some 2, some 3⟩)]

theorem writes_savesWithFailure : plainEngine.writes "ann" savesWithFailure =
    [⟨conversation [1], (conversation [1]).events, .ok ⟨some 0, some 1⟩⟩] ++
    [⟨conversation [1, 2], (conversation [2]).events, .error (.timeout 30)⟩] ++
    [⟨conversation [1, 2, 3], (conversation [2, 3]).events, .ok ⟨some 2, some 3⟩⟩] := by
  rfl

/-- The third save catches up on what the failed one has missed. -/
theorem delivered_with_failure : plainEngine.OnlySaves "ann" savesWithFailure ∧
    Orderly (plainEngine.writes "ann" savesWithFailure) ∧
    storedEvents (plainEngine.writes "ann" savesWithFailure) =
      (conversation [1, 2, 3]).events := by
  have hsaves : plainEngine.OnlySaves "ann" savesWithFailure :=
    ⟨by simp [savesWithFailure, savesInTurn], by decide⟩
  have horderly : Orderly (plainEngine.writes "ann" savesWithFailure) := by
    rw [writes_savesWithFailure]
    exact ((orderly_nil.append (by simp) (by decide) (by decide) (by rintro _ ⟨⟩; rfl)).append
      (by simpa using ⟨_, rfl⟩) (by decide) (by decide) (by rintro _ ⟨⟩)).append
      (by simpa using ⟨⟨_, rfl⟩, ⟨_, rfl⟩⟩) (by decide) (by decide) (by rintro _ ⟨⟩; rfl)
  refine ⟨hsaves, horderly, ?_⟩
  exact (delivered_iff hsaves horderly writes_savesWithFailure rfl).2.2
    (.cons_cons (by decide) (.singleton _))

/-- Two saves, the second one with another event at the time at which the first one ended. -/
def savesAtOneTime : List Action :=
  savesInTurn [([1], .ok ⟨some 0, some 1⟩), ([1, 1], .ok ⟨some 0, some 1⟩)]

theorem writes_savesAtOneTime : plainEngine.writes "ann" savesAtOneTime =
    [⟨conversation [1], (conversation [1]).events, .ok ⟨some 0, some 1⟩⟩] ++
    [⟨conversation [1, 1], [], .ok ⟨some 0, some 1⟩⟩] := by
  rfl

/-- Times that are merely in order are not enough for all events to be delivered: one that comes
later than a save but at the time of its last event is taken for delivered. -/
theorem not_always_delivered :
    ¬ ∀ (e : Engine) (sender : String) (actions : List Action) (past : List Write) (w : Write)
      (cursor : RemoteCursor), e.isTest sender = false → e.OnlySaves sender actions →
      Orderly (e.writes sender actions) → e.writes sender actions = past ++ [w] →
      w.reply = .ok cursor → storedEvents (e.writes sender actions) = w.record.events := by
  intro h
  have hsaves : plainEngine.OnlySaves "ann" savesAtOneTime :=
    ⟨by simp [savesAtOneTime, savesInTurn], by decide⟩
  have horderly : Orderly (plainEngine.writes "ann" savesAtOneTime) := by
    rw [writes_savesAtOneTime]
    exact (orderly_nil.append (by simp) (by decide) (by decide) (by rintro _ ⟨⟩; rfl)).append
      (by simpa using ⟨_, rfl⟩) (by decide) (by decide) (by rintro _ ⟨⟩; rfl)
  have hall := h plainEngine "ann" savesAtOneTime _ _ _ rfl hsaves horderly
    writes_savesAtOneTime rfl
  exact absurd (congrArg List.length hall) (by decide)

end Engine

end DialogueStore
