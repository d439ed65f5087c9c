/-
How old a conversation is when it is swept.

A sweep goes by the time that a record states, and by the time of its last event
only if it states none.  Where every record that comes in states the time of its
last event or none (`Record.Dated`), so do the cached ones, with one exception: a
snapshot may bring events without a time, and what is merged with it keeps the time
that it stated before.

* `Record.Dated.merge` — what a snapshot makes of a dated record,
* `Engine.dated_entry` — all cached records are dated, the exception aside,
* `Engine.swept_iff_old` — a record is swept just if its last event is too old,
* `Engine.swept_while_recent` — the exception, in which a recent conversation is swept.
-/
import Mathlib.Data.List.Infix
import DialogueStore.Proofs.EmptyFetch
import DialogueStore.Proofs.UserTexts

namespace DialogueStore

namespace Record

/-- A record states the time of its last event, or no time at all. -/
def Dated (r : Record) : Prop :=
  r.latestEventTime = none ∨ r.latestEventTime = r.events.getLast?.map (·.timestamp)

/-- The events of a record are in order of time, and all their times are times. -/
def Chronological (r : Record) : Prop :=
  (∀ event ∈ r.events, event.timestamp.isFinite = true) ∧
    r.events.Pairwise fun x y => x.timestamp ≤ y.timestamp

instance (r : Record) : Decidable r.Chronological :=
  inferInstanceAs (Decidable (_ ∧ _))

variable {r : Record}

theorem Dated.latestTime_eq (h : r.Dated) :
    r.latestTime = r.events.getLast?.map (·.timestamp) := by
  rw [latestTime]
  rcases h with h | h
  · rw [h, Option.none_or]
  · rw [h, Option.or_self]

/-- The texts that the user wrote have nothing to do with times. -/
theorem Dated.anonymize (h : r.Dated) (f : String → String) : (r.anonymize f).Dated := by
  have hlast : (r.anonymize f).events.getLast?.map (·.timestamp) =
      r.events.getLast?.map (·.timestamp) := by
    rw [Record.anonymize, List.getLast?_map, Option.map_map]
    exact Option.map_congr fun event _ => Event.timestamp_anonymize
  rw [Dated, hlast]
  exact h

/-- **What a snapshot makes of a dated record.**  If the snapshot is dated, so is what is cached
afterwards, unless the cached record has stated a time and the snapshot brings events without one. -/
theorem Dated.merge {sender : String} {local? : Option Record} {remote : Record} {maxEvents : Nat}
    (hmax : maxEvents ≠ 0) (hcached : ∀ r ∈ local?, r.Dated) (hremote : remote.Dated)
    (htold : ∀ r ∈ local?, r.latestEventTime.isSome = true → remote.events ≠ [] →
      remote.latestEventTime.isSome = true) :
    (Record.merge sender local? remote maxEvents).Dated := by
  cases local? with
  | none =>
    rw [Record.merge]
    split
    · -- Nothing is cached, so that the snapshot stands alone.
      exact hremote
    · exact hremote
  | some cached =>
    have htime : (Record.merge sender (some cached) remote maxEvents).latestEventTime =
        remote.latestEventTime.or cached.latestEventTime := rfl
    rw [Dated, htime]
    by_cases hempty : remote.events = []
    · -- The snapshot says nothing, and the cached record stays dated.
      have hnone : remote.latestEventTime = none := by
        rcases hremote with h | h
        · exact h
        · rw [h, hempty]
          rfl
      rw [hnone, Option.none_or, events_merge_nil hmax hempty]
      exact hcached cached rfl
    · cases hstated : remote.latestEventTime with
      | none =>
        -- Neither of the two states a time.
        have hnone : cached.latestEventTime = none := by
          by_contra hsome
          have hisSome := htold cached rfl (Option.isSome_iff_ne_none.2 hsome) hempty
          rw [hstated] at hisSome
          cases hisSome
        rw [hnone]
        exact .inl rfl
      | some time =>
        -- The last event is the snapshot's, and so is the time.
        have hlast : (Record.merge sender (some cached) remote maxEvents).events.getLast? =
            remote.events.getLast? := by
          rw [events_merge]
          split
          · rfl
          · exact List.getLast?_append_of_ne_nil _ hempty
        rcases hremote with h | h
        · rw [hstated] at h
          cases h
        · rw [hlast, ← h, hstated]
          exact .inr rfl

end Record

namespace Entry

variable {x : Entry} {policy : Retention} {now : Float} {p : Partition} {r : Record}

/-- The age of a dated record is the age of its last event. -/
theorem isStale_iff_of_dated (hr : x.record p = some r) (hdated : r.Dated) :
    x.isStale policy now p = true ↔ ∃ last, r.events.getLast? = some last ∧
      last.timestamp.isFinite = true ∧ policy.of p < now - last.timestamp := by
  rw [isStale, hr]
  dsimp only
  rw [Record.freshness, hdated.latestTime_eq]
  cases hlast : r.events.getLast? with
  | none => simp
  | some last =>
    cases hfinite : last.timestamp.isFinite <;> simp [hfinite, Cache.isStale]

end Entry

namespace Engine

/-- All records that come in are dated: those that are to be saved, and those of the snapshots. -/
structure DatedInputs (actions : List Action) : Prop where
  saves : ∀ id r, .begin id (.save r) ∈ actions → r.Dated
  snapshots : ∀ id snapshot, .reply id (.fetched (.ok (some snapshot))) ∈ actions →
    snapshot.tracker.Dated

/-- Whenever a snapshot brings events to a cached record of the sender that states a time, the
snapshot states one as well. -/
def TellsTimes (e : Engine) (sender : String) (actions : List Action) : Prop :=
  ∀ m ∈ moments actions, ∀ t id snapshot, e.actor? m = some t → t.sender = sender →
    m.action = .reply id (.fetched (.ok (some snapshot))) →
    ∀ r, (e.after m.past).cache.get? .normal sender = some r → r.latestEventTime.isSome = true →
    snapshot.tracker.events ≠ [] → snapshot.tracker.latestEventTime.isSome = true

variable {e : Engine} {actions : List Action} {sender : String}

/-- A save stores a dated record if one was asked for. -/
theorem dated_of_save (hinputs : DatedInputs actions) {t : Task} {r : Record}
    (ht : t ∈ (e.after actions).tasks) (hop : t.operation = .save r) : r.Dated := by
  obtain ⟨original, hbegun, rfl⟩ := e.begun_of_save ht hop
  exact (hinputs.saves _ original (e.mem_of_begun hbegun)).anonymize e.anonymize

theorem DatedInputs.of_append {l l' : List Action} (h : DatedInputs (l ++ l')) : DatedInputs l where
  saves := fun id r hbegin => h.saves id r (List.mem_append_left _ hbegin)
  snapshots := fun id snapshot hreply => h.snapshots id snapshot (List.mem_append_left _ hreply)

/-- All cached records of a sender are dated. -/
theorem dated_entry (hmax : e.config.maxEvents ≠ 0) (hinputs : DatedInputs actions)
    (htimes : e.TellsTimes sender actions) :
    ((e.after actions).cache.entry sender).All Record.Dated := by
  refine all_entry actions fun m hm t hactor hsender => ⟨?_, ?_⟩
  · intro r hop
    obtain ⟨rest, hrest⟩ := exists_of_mem_moments hm
    have hpast : DatedInputs m.past := (hrest ▸ hinputs).of_append
    exact dated_of_save hpast (EngineState.mem_of_actor? hactor) hop
  · intro id snapshot haction hcached
    have hremote : snapshot.tracker.Dated :=
      hinputs.snapshots id snapshot (haction ▸ mem_of_mem_moments hm)
    have hcap : e.config.maxEvents.toNat ≠ 0 := fun hzero => hmax (UInt64.toNat_inj.1 hzero)
    exact .merge hcap hcached hremote (htimes m hm t id snapshot hactor hsender haction)

/-- **A conversation is swept just if its last event is too old.**  Let every record that comes in
state the time of its last event or none, and let no snapshot bring events without a time to a
cached record that states one.  Then a sweep evicts a record from its partition just if the sender's
lock is free and the record's last event is older than the partition's retention. -/
theorem swept_iff_old (hmax : e.config.maxEvents ≠ 0) (hinputs : DatedInputs actions)
    (htimes : e.TellsTimes sender actions) {p : Partition} {r : Record}
    (hcached : (e.after actions).cache.get? p sender = some r) (now : Float) :
    (e.after (actions ++ [.sweep now])).cache.get? p sender = none ↔
      (e.after actions).cache.locks.isLocked sender = false ∧
        ∃ last, r.events.getLast? = some last ∧ last.timestamp.isFinite = true ∧
          e.config.retention.of p < now - last.timestamp := by
  rw [Cache.get?_eq] at hcached
  have hdated := dated_entry hmax hinputs htimes p r hcached
  obtain ⟨-, -, hentry, -⟩ := (e.after actions).cache.sweepAt_spec
    (e.sound_after actions).coherent e.config.retention now
  have hafter : (e.after (actions ++ [.sweep now])).cache =
      ((e.after actions).cache.sweepAt e.config.retention now).1 := by
    rw [after_append]
    rfl
  rw [hafter, Cache.get?_eq, hentry, ← Entry.isStale_iff_of_dated hcached hdated]
  -- A locked sender is passed by, whatever its age.
  cases hlocked : (e.after actions).cache.locks.isLocked sender with
  | true => simp [hcached]
  | false =>
    rw [if_neg (by simp), Entry.record_sweep_eq_none_iff hcached]
    simp

/-! ### A snapshot with a time and one without -/

/-- A save that states its time, and a retrieve that brings a much later event. -/
def savedLongBefore (stated : Option Float) : List Action :=
  [.begin 0 (.save { conversation [1] with latestEventTime := some 1 }), .enter 0,
    .reply 0 (.written (.ok ⟨some 0, some 1⟩)), .begin 1 (.retrieve "ann"), .enter 1,
    .reply 1 (.fetched (.ok (some
      ⟨{ conversation [5000] with latestEventTime := stated }, some 1, some 5000⟩)))]

theorem datedInputs_savedLongBefore {stated : Option Float}
    (h : stated = none ∨ stated = some 5000) : DatedInputs (savedLongBefore stated) := by
  refine ⟨?_, ?_⟩
  · intro id r hbegin
    obtain ⟨-, rfl⟩ : id = 0 ∧ r = { conversation [1] with latestEventTime := some 1 } := by
      simpa [savedLongBefore] using hbegin
    exact .inr rfl
  · intro id snapshot hreply
    obtain ⟨-, rfl⟩ : id = 1 ∧ snapshot =
        ⟨{ conversation [5000] with latestEventTime := stated }, some 1, some 5000⟩ := by
      simpa [savedLongBefore] using hreply
    exact h

/-- With the time in the snapshot, the conversation is kept as long as its last event is recent. -/
theorem swept_iff_old_savedLongBefore :
    (plainEngine.after (savedLongBefore (some 5000) ++ [.sweep 5001])).cache.get? .normal "ann" ≠
      none ∧
    (plainEngine.after (savedLongBefore (some 5000) ++ [.sweep 9000])).cache.get? .normal "ann" =
      none := by
  have htimes : plainEngine.TellsTimes "ann" (savedLongBefore (some 5000)) := by
    intro m hm t id snapshot _ _ haction r _ _ _
    have hreply := haction ▸ mem_of_mem_moments hm
    obtain ⟨-, rfl⟩ : id = 1 ∧ snapshot =
        ⟨{ conversation [5000] with latestEventTime := some 5000 }, some 1, some 5000⟩ := by
      simpa [savedLongBefore] using hreply
    rfl
  have hcached : (plainEngine.after (savedLongBefore (some 5000))).cache.get? .normal "ann" =
      some { conversation [1, 5000] with latestEventTime := some 5000 } := rfl
  have hswept := swept_iff_old (by decide) (datedInputs_savedLongBefore (.inr rfl)) htimes hcached
  refine ⟨?_, ?_⟩
  · rw [Ne, hswept]
    rintro ⟨-, last, hlast, -, hold⟩
    obtain rfl := Option.some.inj hlast
    exact absurd hold (by decide)
  · exact (hswept 9000).2 ⟨rfl, _, rfl, by decide, by decide⟩

/-- Throughout such a run the cached records are in order. -/
theorem chronological_savedLongBefore {past : List Action}
    (hpast : past <+: savedLongBefore none) (sender : String) :
    ((plainEngine.after past).cache.entry sender).All Record.Chronological := by
  have hall : ∀ past ∈ (savedLongBefore none).inits, ∀ p ∈ [Partition.normal, .test],
      ∀ entry ∈ (plainEngine.after past).cache.records p, entry.2.Chronological := by
    decide
  intro p r hr
  rw [← Cache.get?_eq] at hr
  have hp : p ∈ [Partition.normal, .test] := by cases p <;> simp
  exact hall past ((List.mem_inits _ _).2 hpast) p hp (sender, r) (Dict.mem_of_get? hr)

/-- **A recent conversation can be swept.**  The snapshot states no time, and the record goes by the
time that it stated before; the last event was a second ago. -/
theorem swept_while_recent :
    ¬ ∀ (e : Engine) (actions : List Action) (sender : String) (p : Partition) (r : Record)
      (now : Float), e.config.maxEvents ≠ 0 → DatedInputs actions →
      (∀ past, past <+: actions → ∀ s, ((e.after past).cache.entry s).All Record.Chronological) →
      (e.after actions).cache.get? p sender = some r →
      (e.after (actions ++ [.sweep now])).cache.get? p sender = none →
      ∃ last, r.events.getLast? = some last ∧
        e.config.retention.of p < now - last.timestamp := by
  intro h
  have hcached : (plainEngine.after (savedLongBefore none)).cache.get? .normal "ann" =
      some { conversation [1, 5000] with latestEventTime := some 1 } := rfl
  obtain ⟨last, hlast, hold⟩ := h plainEngine (savedLongBefore none) "ann" .normal _ 5001
    (by decide) (datedInputs_savedLongBefore (.inl rfl))
    (fun _ hpast sender => chronological_savedLongBefore hpast sender) hcached rfl
  obtain rfl := Option.some.inj hlast
  exact absurd hold (by decide)

end Engine

end DialogueStore
