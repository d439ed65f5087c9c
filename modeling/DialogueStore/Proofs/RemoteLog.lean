/-
A remote store that keeps a log of events for each sender.

The remote store is no part of the library, and what it makes of a request is
written down here as far as the library relies on it.  A log only grows.  A
write adds its events to the log and is acknowledged with the index and the time
of the log's last event; a fetch brings the events after an index, or the last
ones of them if they are too many.  A request can fail before or after it was
carried out (`Verdict`).

`Entry.events_fetched` says what a fetch makes of the cached events: either
they are continued by all that the log has after the cursor, or they are replaced
by as many events of the end of the log as were asked for.
-/
import Mathlib.Data.List.DropRight
import DialogueStore.Proofs.Delivery
import DialogueStore.Proofs.Records

namespace DialogueStore

/-- The index and the time of the last event of a log. -/
def logEnd (log : List Event) : RemoteCursor where
  lastIndex := log.getLast?.map fun _ => (log.length : Int) - 1
  lastTimestamp := log.getLast?.map (·.timestamp)

/-- What a fetch brings of a log, with these other members of the tracker. -/
def snapshotOf (log : List Event) (frame : Record) (req : FetchRequest) : Snapshot where
  tracker := { frame with events := (log.drop (req.after + 1).toNat).rtake req.maxEvents }
  lastIndex := (logEnd log).lastIndex
  lastTimestamp := (logEnd log).lastTimestamp

/-- What becomes of a request. -/
inductive Verdict
  /-- It is carried out.  A fetch is answered by nothing, or by a snapshot with these other members
  of the tracker. -/
  | granted (frame : Option Record)
  /-- The reply is a failure, and a write may have been carried out all the same. -/
  | failed (applied : Bool) (cause : RemoteError)

/-- A reply, and the log when it was given. -/
structure LogReply where
  reply : Reply
  log : List Event

namespace Verdict

/-- What the remote store answers to a request. -/
def carryOut (verdict : Verdict) (log : List Event) : Call → LogReply
  | .fetch req =>
    match verdict with
    | .granted frame => ⟨.fetched (.ok (frame.map fun r => snapshotOf log r req)), log⟩
    | .failed _ cause => ⟨.fetched (.error cause), log⟩
  | .insert req | .update req =>
    match verdict with
    | .granted _ => ⟨.written (.ok (logEnd (log ++ req.tracker.events))), log ++ req.tracker.events⟩
    | .failed applied cause =>
      ⟨.written (.error cause), if applied then log ++ req.tracker.events else log⟩

variable (verdict : Verdict) (log : List Event)

/-- A log only grows. -/
theorem prefix_log (c : Call) : log <+: (verdict.carryOut log c).log := by
  cases c with
  | fetch req => cases verdict <;> exact List.prefix_rfl
  | insert req | update req =>
    cases verdict with
    | granted frame => exact List.prefix_append _ _
    | failed applied cause =>
      cases applied with
      | true => exact List.prefix_append _ _
      | false => exact List.prefix_rfl

/-- A save sends a part of its record's events, and they are added to the log. -/
theorem carryOut_save (e : Engine) (x : Entry) (r : Record) :
    ∃ sent, (∀ event ∈ sent, event ∈ r.events) ∧
      verdict.carryOut log (e.request x (.save r)) =
        match verdict with
        | .granted _ => ⟨.written (.ok (logEnd (log ++ sent))), log ++ sent⟩
        | .failed applied cause => ⟨.written (.error cause), if applied then log ++ sent else log⟩ := by
  rw [Engine.request]
  split
  · refine ⟨r.eventsAfter x.lastCursor.lastTimestamp, fun _ h => List.mem_of_mem_filter h, ?_⟩
    cases verdict <;> rfl
  · refine ⟨r.events, fun _ h => h, ?_⟩
    cases verdict <;> rfl

end Verdict

/-- Only a retrieve is answered by a snapshot. -/
theorem Verdict.granted_of_snapshot {e : Engine} {verdict : Verdict} {log : List Event} {x : Entry}
    {op : Operation} {snapshot : Snapshot}
    (h : (verdict.carryOut log (e.request x op)).reply = .fetched (.ok (some snapshot))) :
    ∃ sender frame, op = .retrieve sender ∧ verdict = .granted (some frame) := by
  cases op with
  | save r =>
    rw [Engine.request] at h
    split at h <;> cases verdict <;> cases h
  | retrieve sender =>
    rcases verdict with (_ | frame) | _
    · cases h
    · exact ⟨sender, frame, rfl, rfl⟩
    · cases h

@[simp] theorem lastIndex_logEnd (log : List Event) :
    (logEnd log).toCursor.lastIndex = (log.length : Int) - 1 := by
  cases hlast : log.getLast? with
  | none =>
    obtain rfl := List.getLast?_eq_none_iff.1 hlast
    rfl
  | some z => simp [logEnd, RemoteCursor.toCursor, hlast]

/-! ### What a fetch makes of the cached events -/

/-- The last few elements are all of them, unless they are as many as were asked for. -/
theorem rtake_eq_self_of_length_ne {α : Type} {l : List α} {n : Nat}
    (h : (l.rtake n).length ≠ n) : l.rtake n = l := by
  rw [List.rtake, List.length_drop] at h
  rw [List.rtake]
  have hzero : l.length - n = 0 := by omega
  rw [hzero, List.drop_zero]

namespace Entry

variable (x : Entry)

/-- The cached events of the conversation that is exchanged with the remote store. -/
def events : List Event := (x.normal.map (·.events)).getD []

/-- How many events of the log are at the cursor or before it. -/
def passed : Nat := (x.lastCursor.lastIndex + 1).toNat

/-- What is cached after a fetch that brings a snapshot of a log. -/
def fetched (e : Engine) (sender : String) (log : List Event) (frame : Record) : Entry :=
  let answer := (Verdict.granted (some frame)).carryOut log (e.request x (.retrieve sender))
  (e.conclude x (.retrieve sender) answer.reply).1

variable (e : Engine) (sender : String) (log : List Event) (frame : Record)

@[simp] theorem lastIndex_fetched :
    (x.fetched e sender log frame).lastCursor.lastIndex = (log.length : Int) - 1 :=
  lastIndex_logEnd log

/-- A snapshot that is no window is added to the cached events. -/
theorem events_fetched_of_partial {snapshot : Snapshot}
    (hsnapshot : snapshot = snapshotOf log frame (e.fetchRequest sender x.lastCursor))
    (hpartial : isWindowed snapshot.tracker.events.length e.config.maxEvents.toNat = false) :
    (x.fetched e sender log frame).events = x.events ++ snapshot.tracker.events := by
  have hevents : (x.fetched e sender log frame).events = (Record.merge sender x.normal
    snapshot.tracker e.config.maxEvents.toNat).events := by rw [hsnapshot]; rfl
  rw [isWindowed, beq_eq_false_iff_ne] at hpartial
  rw [hevents, Record.events_merge, if_neg hpartial]
  rfl

/-- A fetch continues the cached events by all that is new, or else it has brought as many events as
it could, and they are the end of the log. -/
theorem events_fetched :
    (x.fetched e sender log frame).events = x.events ++ log.drop x.passed ∨
      (x.fetched e sender log frame).events <:+ log ∧
        (x.fetched e sender log frame).events.length = e.config.maxEvents.toNat := by
  have hevents : (x.fetched e sender log frame).events = (Record.merge sender x.normal
    (snapshotOf log frame (e.fetchRequest sender x.lastCursor)).tracker
    e.config.maxEvents.toNat).events := rfl
  rw [hevents, Record.events_merge]
  split
  · rename_i hlength
    exact .inr ⟨(List.drop_suffix _ _).trans (List.drop_suffix _ _), hlength⟩
  · -- Fewer events than were asked for are all there are.
    rename_i hlength
    exact .inl (congrArg (x.events ++ ·) (rtake_eq_self_of_length_ne hlength))

end Entry

end DialogueStore
