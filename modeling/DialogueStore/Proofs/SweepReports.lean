/-
What a sweep reports, and what a second sweep does.

A sweep looks once at each cached record, and what it makes of the record can be told
beforehand (`Cache.judgement`): the locks that are held stay held all the while, and what
becomes of one record does not depend on the others.  So the report of a sweep is a
tally of judgements, and the sweep takes exactly the records that are judged too old.

* `Cache.foldl_sweepEntry_report` — the report of a pass through a partition,
* `Cache.idleLocks_passes` — of the locks that nobody needs, the passes make none and take
  none away,
* `Cache.sweptExactly_sweepAt` — what there is after a sweep and in its report,
* `Cache.sweepAt_exact` — the same, and that a second sweep has nothing more to do.

Design notes: all of this is about caches whose maps are in order (`Cache.Ordered`), so
that a sender has one record at most in a partition.  A list with two entries of one key
is no map.
-/
import DialogueStore.Proofs.LockEntries

namespace DialogueStore

theorem Record.isFinite_of_freshness {r : Record} {t : Float}
    (h : r.freshness = .ok (some t)) : t.isFinite = true := by
  unfold freshness at h
  split at h
  · split at h
    · obtain rfl := Option.some.inj (Except.ok.inj h)
      assumption
    · cases h
  · cases h

/-! ### Judgements -/

/-- What a sweep makes of a record. -/
inductive Judgement
  /-- Somebody holds the sender's lock. -/
  | skipped
  | evicted
  /-- The record is not too old, or nobody knows how old it is. -/
  | retained
  /-- The time of the record is no time, and the record stays. -/
  | failed (cause : InvalidTimestamp)

namespace Judgement

def isSkipped : Judgement → Bool
  | skipped => true
  | _ => false

def isEvicted : Judgement → Bool
  | evicted => true
  | _ => false

/-- The record stays although its lock was free. -/
def isRetained : Judgement → Bool
  | retained | failed _ => true
  | _ => false

def cause? : Judgement → Option InvalidTimestamp
  | failed cause => some cause
  | _ => none

end Judgement

namespace SweepReport

/-- The report with one more judgement. -/
def tell (report : SweepReport) (sender : String) : Judgement → SweepReport
  | .skipped => { report with skipped := report.skipped ++ [sender] }
  | .evicted => { report with evicted := report.evicted ++ [sender] }
  | .retained => { report with retained := report.retained + 1 }
  | .failed cause =>
    { report with
      retained := report.retained + 1
      failures := report.failures ++ [(sender, cause)] }

/-- The report with more judgements, in their order. -/
def tellAll (report : SweepReport) (judgements : List (String × Judgement)) : SweepReport :=
  judgements.foldl (fun report v => report.tell v.1 v.2) report

theorem tellAll_append (report : SweepReport) (vs ws : List (String × Judgement)) :
    report.tellAll (vs ++ ws) = (report.tellAll vs).tellAll ws :=
  List.foldl_append

/-- **A report is a tally of judgements.** -/
theorem tellAll_eq (report : SweepReport) (vs : List (String × Judgement)) :
    report.tellAll vs =
      { report with
        evicted := report.evicted ++ (vs.filter (·.2.isEvicted)).map (·.1)
        retained := report.retained + vs.countP (·.2.isRetained)
        skipped := report.skipped ++ (vs.filter (·.2.isSkipped)).map (·.1)
        failures := report.failures ++ vs.filterMap fun v => v.2.cause?.map (v.1, ·) } := by
  induction vs generalizing report with
  | nil => simp [tellAll]
  | cons v vs ih =>
    have hstep : report.tellAll (v :: vs) = (report.tell v.1 v.2).tellAll vs := rfl
    rw [hstep, ih]
    obtain ⟨sender, judgement⟩ := v
    -- Each judgement adds to columns of its own and leaves the others.
    cases judgement <;>
      simp [tell, Judgement.isEvicted, Judgement.isRetained, Judgement.isSkipped, Judgement.cause?]
    · omega
    · omega

/-- Without the evictions the rest of the report is the same. -/
theorem tellAll_filter (report : SweepReport) (vs : List (String × Judgement)) :
    report.tellAll (vs.filter fun v => !v.2.isEvicted) =
      { report.tellAll vs with evicted := report.evicted } := by
  induction vs generalizing report with
  | nil => rfl
  | cons v vs ih =>
    obtain ⟨sender, judgement⟩ := v
    cases judgement with
    | evicted =>
      have hleft : ((sender, Judgement.evicted) :: vs).filter (fun v => !v.2.isEvicted) =
          vs.filter fun v => !v.2.isEvicted := rfl
      have htold : report.tellAll ((sender, .evicted) :: vs) =
          (report.tell sender .evicted).tellAll vs := rfl
      rw [hleft, ih, htold, tellAll_eq, tellAll_eq]
      rfl
    | skipped | retained | failed => exact ih _

end SweepReport

namespace Cache

variable {policy : Retention} {now : Float} {p q : Partition} {c : Cache} {sender : String}
  {r : Record}

/-- What a sweep makes of the record of a sender in a partition. -/
def judgement (c : Cache) (policy : Retention) (now : Float) (p : Partition) (sender : String)
    (r : Record) : Judgement :=
  if c.locks.isLocked sender then .skipped
  else
    match r.freshness with
    | .ok (some latest) => if isStale now (policy.of p) latest then .evicted else .retained
    | .ok none => .retained
    | .error cause => .failed cause

/-- What a sweep makes of the records of a partition. -/
def judgementsOf (c : Cache) (policy : Retention) (now : Float) (p : Partition) :
    List (String × Judgement) :=
  (c.records p).map fun e => (e.1, c.judgement policy now p e.1 e.2)

/-- What a sweep makes of all records, in the order in which it looks at them. -/
def judgements (c : Cache) (policy : Retention) (now : Float) : List (String × Judgement) :=
  c.judgementsOf policy now .test ++ c.judgementsOf policy now .normal

theorem judgement_congr {d : Cache} (h : d.locks.handles = c.locks.handles) :
    d.judgement policy now p sender r = c.judgement policy now p sender r := by
  rw [judgement, judgement, Locks.isLocked_congr h]

/-- **The records that a sweep evicts** are those of senders whose lock nobody holds and that were
last active, at a time that is known, longer ago than their partition allows. -/
theorem isEvicted_judgement_iff : (c.judgement policy now p sender r).isEvicted = true ↔
    c.locks.isLocked sender = false ∧
      ∃ t, r.freshness = .ok (some t) ∧ policy.of p < now - t := by
  unfold judgement
  cases c.locks.isLocked sender with
  | true => simp [Judgement.isEvicted]
  | false =>
    cases r.freshness with
    | error cause => simp [Judgement.isEvicted]
    | ok latest =>
      cases latest with
      | none => simp [Judgement.isEvicted]
      | some t =>
        by_cases hold : policy.of p < now - t <;> simp [isStale, Judgement.isEvicted, hold]

theorem isEvicted_judgement (hr : (c.entry sender).record p = some r) :
    (c.judgement policy now p sender r).isEvicted =
      (!c.locks.isLocked sender && (c.entry sender).isStale policy now p) := by
  rw [Bool.eq_iff_iff, isEvicted_judgement_iff, Entry.isStale, hr]
  dsimp only
  cases c.locks.isLocked sender with
  | true => simp
  | false =>
    cases r.freshness with
    | error cause => simp
    | ok latest => cases latest <;> simp [isStale]

/-! ### The report of a pass -/

/-- Looking at one record. -/
theorem sweepEntry_report (hc : c.locks.Coherent) (hr : c.get? p sender = some r)
    (report : SweepReport) : (sweepEntry policy now p (c, report) sender).2 =
      report.tell sender (c.judgement policy now p sender r) := by
  unfold judgement
  cases hs : c.locks.isLocked sender with
  | true =>
    simp only [sweepEntry, tryLock_of_isLocked hc hs]
    rfl
  | false =>
    -- Taking the lock does not touch the record.
    have hget : get? { c with locks := (c.locks.lock sender).1 } p sender = some r := by
      rw [get?_eq, entry_setLocks, ← get?_eq, hr]
    simp only [sweepEntry, tryLock_of_not_isLocked hc hs, hget]
    cases r.freshness with
    | error cause => rfl
    | ok latest =>
      cases latest with
      | none => rfl
      | some t =>
        dsimp only
        cases isStale now (policy.of p) t <;> rfl

/-- Looking at some records of a partition, of different senders. -/
theorem foldl_sweepEntry_report (l : List (String × Record)) (hl : (l.map (·.1)).Nodup)
    (hc : c.locks.Coherent) (hget : ∀ e ∈ l, c.get? p e.1 = some e.2) (report : SweepReport) :
    ((l.map (·.1)).foldl (sweepEntry policy now p) (c, report)).2 =
      report.tellAll (l.map fun e => (e.1, c.judgement policy now p e.1 e.2)) := by
  induction l generalizing c report with
  | nil => rfl
  | cons e l ih =>
    obtain ⟨hfirst, hget⟩ := List.forall_mem_cons.1 hget
    obtain ⟨hnot, hl⟩ := List.nodup_cons.1 hl
    have hswept := sweepEntry_swept policy now p (c, report) hc e.1
    have htold : (sweepEntry policy now p (c, report) e.1).2 =
        report.tell e.1 (c.judgement policy now p e.1 e.2) := sweepEntry_report hc hfirst report
    obtain ⟨⟨c', report'⟩, hstep⟩ : ∃ state, sweepEntry policy now p (c, report) e.1 = state :=
      ⟨_, rfl⟩
    rw [hstep] at hswept htold
    -- The other records are there still, and the judgements about them are the same.
    have hget' : ∀ x ∈ l, c'.get? p x.1 = some x.2 := by
      intro x hx
      have hne : x.1 ≠ e.1 := fun heq => hnot (List.mem_map.2 ⟨x, hx, heq⟩)
      rw [get?_eq, hswept.kept x.1 (.inl hne), ← get?_eq]
      exact hget x hx
    have hjudgement : (l.map fun x => (x.1, c'.judgement policy now p x.1 x.2)) =
        l.map fun x => (x.1, c.judgement policy now p x.1 x.2) :=
      List.map_congr_left fun x _ => by rw [judgement_congr hswept.handles]
    rw [List.map_cons, List.foldl_cons, hstep, ih hl hswept.coherent hget', hjudgement,
      List.map_cons]
    exact congrArg (SweepReport.tellAll · _) htold

/-! ### Maps in order -/

/-- The maps of a cache are in order, and its locks are coherent. -/
structure Ordered (c : Cache) : Prop where
  records : ∀ p, (c.records p).Sorted
  cursors : c.cursors.Sorted
  locks : c.locks.Coherent

theorem records_setLocks (c : Cache) (locks : Locks) (p : Partition) :
    records { c with locks } p = c.records p := by
  cases p <;> rfl

theorem records_evict (c : Cache) (p : Partition) (sender : String) (id : Nat) (q : Partition) :
    (c.evict p sender id).1.records q =
      if p = q then (c.records q).erase sender else c.records q := by
  cases p <;> cases q <;> rfl

theorem cursors_evict (c : Cache) (p : Partition) (sender : String) (id : Nat) :
    (c.evict p sender id).1.cursors = c.cursors.erase sender := by
  cases p <;> rfl

theorem Ordered.sweepEntry {state : Cache × SweepReport} (h : state.1.Ordered)
    (policy : Retention) (now : Float) (p : Partition) (sender : String) :
    (sweepEntry policy now p state sender).1.Ordered := by
  have hcoherent := (sweepEntry_swept policy now p state h.locks sender).coherent
  rcases sweepEntry_cases policy now p state sender with ⟨locks, -, heq⟩ | ⟨-, id, heq⟩
  · refine ⟨fun q => ?_, ?_, hcoherent⟩
    · rw [heq, records_setLocks]
      exact h.records q
    · rw [heq]
      exact h.cursors
  · refine ⟨fun q => ?_, ?_, hcoherent⟩
    · rw [heq, records_evict, records_setLocks]
      split
      · exact (h.records q).filter _
      · exact h.records q
    · rw [heq, cursors_evict]
      exact h.cursors.filter _

theorem Ordered.sweepPartition (state : Cache × SweepReport) (h : state.1.Ordered)
    (policy : Retention) (now : Float) (p : Partition) :
    (sweepPartition policy now state p).1.Ordered := by
  have hall : ∀ (keys : List String) (state : Cache × SweepReport), state.1.Ordered →
      (keys.foldl (Cache.sweepEntry policy now p) state).1.Ordered := by
    intro keys
    induction keys with
    | nil => exact fun _ h => h
    | cons key keys ih => exact fun state h => ih _ (h.sweepEntry policy now p key)
  exact hall _ _ h

/-- What both passes of a sweep leave, before locks are forgotten. -/
def passes (c : Cache) (policy : Retention) (now : Float) : Cache × SweepReport :=
  Cache.sweepPartition policy now (Cache.sweepPartition policy now (c, {}) .test) .normal

theorem sweepAt_eq (c : Cache) (policy : Retention) (now : Float) : c.sweepAt policy now =
    ((c.passes policy now).1.prune.1, { (c.passes policy now).2 with
      prunedLocks := (c.passes policy now).1.prune.2 }) := rfl

theorem Ordered.passes (h : c.Ordered) (policy : Retention) (now : Float) :
    (c.passes policy now).1.Ordered :=
  (h.sweepPartition (c, {}) policy now .test).sweepPartition _ policy now .normal

theorem Ordered.sweepAt (h : c.Ordered) (policy : Retention) (now : Float) :
    (c.sweepAt policy now).1.Ordered := by
  have hpasses := h.passes policy now
  refine ⟨fun p => ?_, hpasses.cursors, (sweepAt_spec c h.locks policy now).1⟩
  rw [sweepAt_eq, prune, records_setLocks]
  exact hpasses.records p

/-- The report of a pass through a partition. -/
theorem sweepPartition_report (h : c.Ordered) (report : SweepReport) :
    (sweepPartition policy now (c, report) p).2 =
      report.tellAll (c.judgementsOf policy now p) :=
  foldl_sweepEntry_report (c.records p) (h.records p).nodup_keys h.locks
    (fun _ he => (h.records p).mem_iff.1 he) report

/-- A pass through one partition leaves the records of the other one as they are. -/
theorem records_sweepPartition_of_ne (state : Cache × SweepReport) (h : state.1.Ordered)
    (hne : p ≠ q) : (sweepPartition policy now state p).1.records q = state.1.records q := by
  have hswept := sweepPartition_swept policy now state h.locks p
  refine ((h.sweepPartition state policy now p).records q).ext (h.records q) fun s => ?_
  have hrecord : ((sweepPartition policy now state p).1.entry s).record q =
      (state.1.entry s).record q := by
    cases hlock : state.1.locks.isLocked s with
    | true => rw [hswept.kept s (.inr hlock)]
    | false =>
      rw [hswept.entry s trivial hlock, Entry.record_sweepPartition, if_neg fun hp => hne hp.1]
  rw [← get?_eq, ← get?_eq] at hrecord
  exact hrecord

/-- **The report of a sweep** is the tally of all judgements. -/
theorem report_passes (h : c.Ordered) :
    (c.passes policy now).2 = SweepReport.tellAll {} (c.judgements policy now) := by
  have htest : (sweepPartition policy now (c, {}) .test).2 =
      SweepReport.tellAll {} (c.judgementsOf policy now .test) := sweepPartition_report h {}
  have hhandles := (sweepPartition_swept policy now (c, {}) h.locks .test).handles
  have hrecords : (sweepPartition policy now (c, {}) .test).1.records .normal =
      c.records .normal := records_sweepPartition_of_ne (c, {}) h (by decide)
  have hordered := h.sweepPartition (c, {}) policy now .test
  obtain ⟨⟨c', report⟩, hstate⟩ : ∃ state, sweepPartition policy now (c, {}) .test = state :=
    ⟨_, rfl⟩
  rw [hstate] at htest hhandles hrecords hordered
  -- The second pass finds the records and the locks as they were before the first one.
  have hjudgements : c'.judgementsOf policy now .normal = c.judgementsOf policy now .normal := by
    rw [judgementsOf, judgementsOf, hrecords]
    exact List.map_congr_left fun e _ => by rw [judgement_congr hhandles]
  have hnormal : (sweepPartition policy now (c', report) .normal).2 =
      report.tellAll (c'.judgementsOf policy now .normal) := sweepPartition_report hordered report
  have htest : report = SweepReport.tellAll {} (c.judgementsOf policy now .test) := htest
  rw [passes, hstate, hnormal, htest, hjudgements, judgements, SweepReport.tellAll_append]

/-! ### Idle locks -/

/-- The locks on which nobody has a handle, of senders for whom nothing is cached. -/
def idleLocks (c : Cache) : Dict Nat :=
  c.locks.entries.filter fun e => !(0 < c.locks.handleCount e.2 || c.hasEntries e.1)

/-- They are what is forgotten in the end of a sweep. -/
theorem prune_snd (c : Cache) : c.prune.2 = c.idleLocks.length := by
  have hcount : c.locks.size = (c.locks.prune c.hasEntries).size + c.idleLocks.length := by
    have hsplit := List.length_eq_countP_add_countP
      (fun e => decide (0 < c.locks.handleCount e.2) || c.hasEntries e.1) (l := c.locks.entries)
    simp only [decide_not, Bool.decide_eq_true] at hsplit
    rw [Locks.size, Locks.size, idleLocks, Locks.prune, ← List.countP_eq_length_filter,
      ← List.countP_eq_length_filter]
    exact hsplit
  exact Nat.sub_eq_of_eq_add' hcount

theorem idleLocks_prune (c : Cache) : c.prune.1.idleLocks = [] := by
  refine List.filter_eq_nil_iff.2 fun e he hidle => ?_
  have hkept := (List.mem_filter.1 he).2
  have hidle : (!(decide (0 < c.locks.handleCount e.2) || c.hasEntries e.1)) = true := hidle
  rw [hkept] at hidle
  cases hidle

theorem get?_idleLocks (hc : c.locks.Coherent) (sender : String) :
    c.idleLocks.get? sender = (c.locks.entries.get? sender).filter fun _ =>
      !(c.locks.handles.any (fun h => h.sender = sender)) && (c.entry sender).isEmpty := by
  rw [idleLocks, hc.sorted.get?_filter]
  cases hentry : c.locks.entries.get? sender with
  | none => rfl
  | some mutex =>
    rw [Option.filter_some, Option.filter_some, hc.decide_handleCount_pos hentry, hasEntries_eq,
      Bool.not_or, Bool.not_not]

/-- What becomes of a lock on which nobody has a handle while something is cached for its sender no
more: it is gone unless nothing was cached before, either. -/
structure Tidied (before after : Cache) : Prop where
  empty : ∀ s, (before.entry s).isEmpty = true → (after.entry s).isEmpty = true
  idle : ∀ s, (∀ h ∈ before.locks.handles, h.sender ≠ s) → (after.entry s).isEmpty = true →
    after.locks.entries.get? s =
      if (before.entry s).isEmpty then before.locks.entries.get? s else none

theorem Tidied.refl (c : Cache) : c.Tidied c :=
  ⟨fun _ h => h, fun s _ h => by rw [if_pos h]⟩

theorem Tidied.trans {a b c : Cache} (h : a.Tidied b) (h' : b.Tidied c)
    (hhandles : b.locks.handles = a.locks.handles) : a.Tidied c := by
  refine ⟨fun s hs => h'.empty s (h.empty s hs), fun s hidle hs => ?_⟩
  rw [h'.idle s (hhandles ▸ hidle) hs]
  cases hb : (b.entry s).isEmpty with
  | true => exact h.idle s hidle hb
  | false =>
    have ha : (a.entry s).isEmpty = false := by
      by_contra ha
      rw [h.empty s (eq_true_of_ne_false ha)] at hb
      cases hb
    rw [ha]
    rfl

/-- A lock on which nobody else has a handle goes when a record is evicted under it. -/
theorem forgetIfSole_lock {l : Locks} (hl : l.Coherent)
    (hidle : ∀ h ∈ l.handles, h.sender ≠ sender) :
    ((l.lock sender).1.forgetIfSole sender).entries.get? sender = none := by
  by_contra hsome
  have hentry : (((l.lock sender).1.forgetIfSole sender).drop l.nextHandle).entries.contains
      sender = true := by
    rw [Locks.drop_entries, Dict.contains, Option.isSome_iff_ne_none]
    exact hsome
  obtain ⟨h, hm, hid, hs⟩ := (hl.lock sender).exists_other (hl.find?_lock sender) hentry
  rw [Locks.lock_handles hl, List.mem_append, List.mem_singleton] at hm
  rcases hm with hm | rfl
  · exact hidle h hm hs
  · exact hid rfl

/-- Looking at a record. -/
theorem sweepEntry_tidied {state : Cache × SweepReport} (hc : state.1.locks.Coherent)
    (hr : ((state.1.entry sender).record p).isSome = true) :
    state.1.Tidied (sweepEntry policy now p state sender).1 := by
  obtain ⟨c, report⟩ := state
  have hempty : (c.entry sender).isEmpty = false := Entry.isEmpty_of_record hr
  rcases sweepEntry_cases policy now p (c, report) sender with ⟨locks, hentries, heq⟩ | ⟨-, id, heq⟩
  · -- The record stays, and at most an entry for its sender's lock has come.
    rw [heq]
    refine ⟨fun _ hs => hs, fun s _ hs => ?_⟩
    have hs : (c.entry s).isEmpty = true := hs
    have hne : sender ≠ s := by
      rintro rfl
      exact absurd hs (by simp [hempty])
    rw [if_pos hs]
    exact (congrArg (Dict.get? · s) hentries).trans ((Locks.lock_get? _ _ _).trans (if_neg hne))
  · have hentry : ∀ s, sender ≠ s → (evict { c with locks := (c.locks.lock sender).1 } p sender
        id).1.entry s = c.entry s := by
      intro s hne
      rw [entry_evict, if_neg hne]
      rfl
    rw [heq]
    refine ⟨fun s hs => ?_, fun s hidle hs => ?_⟩
    · have hne : sender ≠ s := by
        rintro rfl
        exact absurd hs (by simp [hempty])
      rw [hentry s hne]
      exact hs
    · by_cases hne : sender = s
      · subst hne
        rw [hempty, evict_locks, Locks.drop_entries]
        exact forgetIfSole_lock hc hidle
      · rw [hentry s hne] at hs
        rw [if_pos hs, evict_locks, Locks.drop_entries, Locks.get?_forgetIfSole_of_ne hne]
        exact (Locks.lock_get? _ _ _).trans (if_neg hne)

/-- Looking at some records of a partition, of different senders. -/
theorem foldl_sweepEntry_tidied (keys : List String) (hkeys : keys.Nodup)
    {state : Cache × SweepReport} (hc : state.1.locks.Coherent)
    (hr : ∀ s ∈ keys, ((state.1.entry s).record p).isSome = true) :
    state.1.Tidied (keys.foldl (sweepEntry policy now p) state).1 := by
  induction keys generalizing state with
  | nil => exact .refl state.1
  | cons key keys ih =>
    obtain ⟨hfirst, hr⟩ := List.forall_mem_cons.1 hr
    obtain ⟨hnot, hkeys⟩ := List.nodup_cons.1 hkeys
    have hswept := sweepEntry_swept policy now p state hc key
    have hr' : ∀ s ∈ keys, (((sweepEntry policy now p state key).1.entry s).record p).isSome =
        true := by
      intro s hs
      have hne : s ≠ key := fun heq => hnot (heq ▸ hs)
      rw [hswept.kept s (.inl hne)]
      exact hr s hs
    exact (sweepEntry_tidied hc hfirst).trans (ih hkeys hswept.coherent hr') hswept.handles

theorem sweepPartition_tidied (state : Cache × SweepReport) (h : state.1.Ordered) :
    state.1.Tidied (sweepPartition policy now state p).1 := by
  refine foldl_sweepEntry_tidied _ (h.records p).nodup_keys h.locks fun s hs => ?_
  obtain ⟨⟨s, r⟩, he, rfl⟩ := List.mem_map.1 hs
  have hget : state.1.get? p s = some r := (h.records p).mem_iff.1 he
  rw [← get?_eq, hget]
  rfl

/-- **The idle locks that are forgotten are those that were there before.** -/
theorem idleLocks_passes (h : c.Ordered) : (c.passes policy now).1.idleLocks = c.idleLocks := by
  have h₁ := sweepPartition_swept policy now (c, {}) h.locks .test
  have h₂ := sweepPartition_swept policy now _ h₁.coherent .normal
  have hhandles : (c.passes policy now).1.locks.handles = c.locks.handles :=
    h₂.handles.trans h₁.handles
  have hfirst : c.Tidied (sweepPartition policy now (c, {}) .test).1 :=
    sweepPartition_tidied (c, {}) h
  have hordered := h.sweepPartition (c, {}) policy now .test
  have htidied : c.Tidied (c.passes policy now).1 :=
    hfirst.trans (sweepPartition_tidied _ hordered) h₁.handles
  have hsorted : ∀ {d : Cache}, d.Ordered → d.idleLocks.Sorted := fun hd => hd.locks.sorted.filter _
  refine (hsorted (h.passes policy now)).ext (hsorted h) fun s => ?_
  rw [get?_idleLocks (h.passes policy now).locks, get?_idleLocks h.locks, hhandles]
  -- A lock with a handle is not idle on either side; of the others something may be forgotten.
  cases hany : c.locks.handles.any fun h => h.sender = s with
  | true => simp
  | false =>
    have hidle : ∀ h ∈ c.locks.handles, h.sender ≠ s := by simpa using hany
    cases hafter : ((c.passes policy now).1.entry s).isEmpty with
    | false =>
      have hbefore : (c.entry s).isEmpty = false := by
        by_contra hbefore
        rw [htidied.empty s (eq_true_of_ne_false hbefore)] at hafter
        cases hafter
      simp [hbefore]
    | true =>
      rw [htidied.idle s hidle hafter]
      cases (c.entry s).isEmpty <;> simp

/-! ### The whole sweep -/

/-- **What a sweep reports.** -/
theorem report_sweepAt (h : c.Ordered) : (c.sweepAt policy now).2 =
    { SweepReport.tellAll {} (c.judgements policy now) with
      prunedLocks := c.idleLocks.length } := by
  rw [sweepAt_eq, prune_snd, idleLocks_passes h, report_passes h]

theorem get?_sweepAt (hc : c.locks.Coherent) (p : Partition) (sender : String) :
    (c.sweepAt policy now).1.get? p sender =
      (c.get? p sender).filter fun r => !(c.judgement policy now p sender r).isEvicted := by
  rw [get?_eq, get?_eq, (sweepAt_spec c hc policy now).2.2.1]
  cases hr : (c.entry sender).record p with
  | none =>
    split
    · exact hr
    · rw [Entry.record_sweep, hr]
      split <;> rfl
  | some r =>
    rw [Option.filter_some, isEvicted_judgement hr]
    cases c.locks.isLocked sender with
    | true => exact hr
    | false =>
      have hfree : ((c.entry sender).sweep policy now).record p =
          if (c.entry sender).isStale policy now p = true then none else some r := by
        rw [Entry.record_sweep, hr]
      refine hfree.trans ?_
      cases (c.entry sender).isStale policy now p <;> rfl

/-- **The records that a sweep leaves.** -/
theorem records_sweepAt (h : c.Ordered) (p : Partition) : (c.sweepAt policy now).1.records p =
    (c.records p).filter fun e => !(c.judgement policy now p e.1 e.2).isEvicted := by
  refine ((h.sweepAt policy now).records p).ext ((h.records p).filter _) fun s => ?_
  rw [(h.records p).get?_filter]
  exact get?_sweepAt h.locks p s

/-- **The cursors that a sweep leaves.** -/
theorem cursors_sweepAt (h : c.Ordered) : (c.sweepAt policy now).1.cursors =
    c.cursors.filter fun e => e.1 ∉ (c.sweepAt policy now).2.evicted := by
  obtain ⟨-, -, hentry, hevicted⟩ := sweepAt_spec c h.locks policy now
  refine (h.sweepAt policy now).cursors.ext (h.cursors.filter _) fun s => ?_
  rw [h.cursors.get?_filter]
  have hcursor : (c.sweepAt policy now).1.cursors.get? s =
      if c.locks.isLocked s then c.cursors.get? s else ((c.entry s).sweep policy now).cursor := by
    refine (congrArg Entry.cursor (hentry s)).trans ?_
    split <;> rfl
  have hgone : decide (s ∉ (c.sweepAt policy now).2.evicted) =
      (c.locks.isLocked s || !(c.entry s).isEvicted policy now) := by
    rw [Bool.eq_iff_iff, decide_eq_true_iff, hevicted]
    cases c.locks.isLocked s <;> simp
  rw [hcursor]
  simp only [hgone]
  cases c.locks.isLocked s with
  | true => cases c.cursors.get? s <;> rfl
  | false =>
    cases hold : (c.entry s).isEvicted policy now with
    | true =>
      rw [Entry.cursor_sweep_of_isEvicted hold]
      cases c.cursors.get? s <;> rfl
    | false =>
      have hsame : ((c.entry s).sweep policy now).cursor = c.cursors.get? s := by
        rw [Entry.sweep_of_not_isEvicted hold]
        rfl
      rw [hsame]
      cases c.cursors.get? s <;> rfl

/-- What a second sweep will make of the records that are left. -/
theorem judgements_sweepAt (h : c.Ordered) :
    (c.sweepAt policy now).1.judgements policy now =
      (c.judgements policy now).filter fun v => !v.2.isEvicted := by
  have hhandles := (sweepAt_spec c h.locks policy now).2.1
  have hone : ∀ p, (c.sweepAt policy now).1.judgementsOf policy now p =
      (c.judgementsOf policy now p).filter fun v => !v.2.isEvicted := by
    intro p
    rw [judgementsOf, judgementsOf, records_sweepAt h, List.filter_map]
    exact List.map_congr_left fun e _ => by rw [judgement_congr hhandles]
  rw [judgements, hone, hone, judgements, List.filter_append]

/-- What a sweep of a cache leaves, and what it reports. -/
structure SweptExactly (policy : Retention) (now : Float) (c : Cache)
    (result : Cache × SweepReport) : Prop where
  /-- A record goes just if nobody holds its sender's lock and it was last active at a time that is
  known, and longer ago than its partition allows. -/
  gone_iff : ∀ {p s r}, c.get? p s = some r → (result.1.get? p s = none ↔
    c.locks.isLocked s = false ∧
      ∃ t, r.freshness = .ok (some t) ∧ t.isFinite = true ∧ policy.of p < now - t)
  /-- The other records stay as they are. -/
  records : ∀ p, result.1.records p =
    (c.records p).filter fun e => !(c.judgement policy now p e.1 e.2).isEvicted
  /-- A cursor goes just if a record of its sender does. -/
  cursors : result.1.cursors = c.cursors.filter fun e => e.1 ∉ result.2.evicted
  /-- Whoever has a handle on a lock has it still, and it is the lock of its sender still. -/
  handles : result.1.locks.handles = c.locks.handles
  held : ∀ h ∈ c.locks.handles,
    result.1.locks.entries.get? h.sender = c.locks.entries.get? h.sender
  /-- The report is about all records, each of which is told once. -/
  report : result.2 =
    { evicted := ((c.judgements policy now).filter (·.2.isEvicted)).map (·.1)
      retained := (c.judgements policy now).countP (·.2.isRetained)
      skipped := ((c.judgements policy now).filter (·.2.isSkipped)).map (·.1)
      failures := (c.judgements policy now).filterMap fun v => v.2.cause?.map (v.1, ·)
      prunedLocks := c.idleLocks.length }
  counted : result.2.evicted.length + result.2.retained + result.2.skipped.length =
    (c.records .test).length + (c.records .normal).length

/-- Each record is evicted, retained or skipped. -/
theorem length_judgements (vs : List (String × Judgement)) :
    vs.countP (·.2.isEvicted) + vs.countP (·.2.isRetained) + vs.countP (·.2.isSkipped) =
      vs.length := by
  induction vs with
  | nil => rfl
  | cons v vs ih =>
    obtain ⟨sender, judgement⟩ := v
    rw [List.length_cons, ← ih]
    simp only [List.countP_cons]
    cases judgement <;> simp [Judgement.isEvicted, Judgement.isRetained, Judgement.isSkipped]
    all_goals omega

theorem sweptExactly_sweepAt (h : c.Ordered) (policy : Retention) (now : Float) :
    c.SweptExactly policy now (c.sweepAt policy now) := by
  have hreport : (c.sweepAt policy now).2 =
      { evicted := ((c.judgements policy now).filter (·.2.isEvicted)).map (·.1)
        retained := (c.judgements policy now).countP (·.2.isRetained)
        skipped := ((c.judgements policy now).filter (·.2.isSkipped)).map (·.1)
        failures := (c.judgements policy now).filterMap fun v => v.2.cause?.map (v.1, ·)
        prunedLocks := c.idleLocks.length } := by
    rw [report_sweepAt h, SweepReport.tellAll_eq]
    simp
  obtain ⟨hcoherent, hhandles, -, -⟩ := sweepAt_spec c h.locks policy now
  refine ⟨fun {p s r} hr => ?_, records_sweepAt h, cursors_sweepAt h, hhandles, fun x hx => ?_,
    hreport, ?_⟩
  · have hgone : (c.sweepAt policy now).1.get? p s = none ↔
        (c.judgement policy now p s r).isEvicted = true := by
      rw [get?_sweepAt h.locks, hr, Option.filter_some]
      cases (c.judgement policy now p s r).isEvicted <;> simp
    rw [hgone, isEvicted_judgement_iff]
    refine and_congr_right fun _ => exists_congr fun t => and_congr_right fun ht => ?_
    exact (and_iff_right (Record.isFinite_of_freshness ht)).symm
  · have hstored := hcoherent.stored x (hhandles ▸ hx)
    rw [hstored, h.locks.stored x hx]
  · rw [hreport]
    simp only [List.length_map, ← List.countP_eq_length_filter]
    rw [length_judgements, judgements, List.length_append, judgementsOf, judgementsOf,
      List.length_map, List.length_map]

/-- **A sweep is exact, and a second one has nothing to do.**  Each cached record is judged by
itself: it is skipped if somebody holds its sender's lock, it goes if it is known to be too old, and
it stays in all other cases.  The report tells each of them once.  With the records go the cursors
of their senders; and the idle locks that the report counts are those of senders for whom nothing
was cached.  A second sweep at the same time evicts nothing, forgets no lock, reports the rest as
before and changes no record or cursor. -/
theorem sweepAt_exact {c : Cache} (h : c.Ordered) (policy : Retention) (now : Float) :
    let first := c.sweepAt policy now
    let second := first.1.sweepAt policy now
    c.SweptExactly policy now first ∧
      second.2 = { first.2 with evicted := [], prunedLocks := 0 } ∧
      (∀ p, second.1.records p = first.1.records p) ∧ second.1.cursors = first.1.cursors := by
  intro first second
  have hfirst : first.1.Ordered := h.sweepAt policy now
  -- What is left after the first sweep is what that sweep did not evict, and it would not evict it
  -- now.
  have hkept : ∀ p, ∀ e ∈ first.1.records p,
      (first.1.judgement policy now p e.1 e.2).isEvicted = false := by
    intro p e he
    rw [records_sweepAt h, List.mem_filter] at he
    rw [judgement_congr (sweepAt_spec c h.locks policy now).2.1]
    simpa using he.2
  have hreport : second.2 = { first.2 with evicted := [], prunedLocks := 0 } := by
    have hidle : first.1.idleLocks = [] := idleLocks_prune _
    have htold : first.2 = { SweepReport.tellAll {} (c.judgements policy now) with
        prunedLocks := c.idleLocks.length } := report_sweepAt h
    calc second.2
        = { SweepReport.tellAll {} (first.1.judgements policy now) with
            prunedLocks := first.1.idleLocks.length } := report_sweepAt hfirst
      _ = { SweepReport.tellAll {} (c.judgements policy now) with
            evicted := [], prunedLocks := 0 } := by
        rw [judgements_sweepAt h, hidle, SweepReport.tellAll_filter]
        rfl
      _ = { first.2 with evicted := [], prunedLocks := 0 } := by rw [htold]
  refine ⟨sweptExactly_sweepAt h policy now, hreport, fun p => ?_, ?_⟩
  · refine (records_sweepAt hfirst p).trans (List.filter_eq_self.2 fun e he => ?_)
    rw [hkept p e he]
    rfl
  · refine (cursors_sweepAt hfirst).trans (List.filter_eq_self.2 fun e _ => ?_)
    -- The second sweep evicts no one, and so no cursor is forgotten.
    have hnone : second.2.evicted = [] := by rw [hreport]
    rw [decide_eq_true_iff]
    exact hnone ▸ List.not_mem_nil

/-- A cache in which a sweep finds everything: a sender with two records, one whose lock is held,
one whose time is no time, and an idle lock. -/
def crowded : Cache where
  test := [("ann", { senderId := "ann", latestEventTime := some 100 }),
    ("bob", { senderId := "bob", latestEventTime := some 100 }),
    ("cid", { senderId := "cid", latestEventTime := some (0 / 0) })]
  normal := [("ann", { senderId := "ann", latestEventTime := some 900 }),
    ("cid", { senderId := "cid" })]
  cursors := [("ann", ⟨4, 900⟩), ("dan", ⟨7, 950⟩)]
  locks := (((({} : Locks).lock "eve").1.drop 0).lock "bob").1

theorem ordered_crowded : crowded.Ordered where
  records p := by
    unfold Dict.Sorted
    cases p <;> decide
  cursors := by
    unfold Dict.Sorted
    decide
  locks := ((Locks.coherent_empty.lock "eve").drop 0).lock "bob"

/-- The test record of the first sender goes, and its cursor with it; its other record stays. -/
theorem sweepAt_exact_crowded :
    crowded.Ordered ∧
    ((crowded.sweepAt ⟨600, 500⟩ 1000).2.evicted = ["ann"] ∧
      (crowded.sweepAt ⟨600, 500⟩ 1000).2.retained = 3 ∧
      (crowded.sweepAt ⟨600, 500⟩ 1000).2.skipped = ["bob"] ∧
      (crowded.sweepAt ⟨600, 500⟩ 1000).2.failures.map (·.1) = ["cid"] ∧
      (crowded.sweepAt ⟨600, 500⟩ 1000).2.prunedLocks = 1) ∧
    ((crowded.sweepAt ⟨600, 500⟩ 1000).1.sweepAt ⟨600, 500⟩ 1000).2.evicted = [] ∧
    ((crowded.sweepAt ⟨600, 500⟩ 1000).1.sweepAt ⟨600, 500⟩ 1000).2.retained = 3 := by
  obtain ⟨-, hsecond, -, -⟩ := sweepAt_exact ordered_crowded ⟨600, 500⟩ 1000
  refine ⟨ordered_crowded, by decide, ?_, ?_⟩
  · rw [hsecond]
  · rw [hsecond]
    decide

end Cache

end DialogueStore
