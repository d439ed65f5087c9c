/-
What a sweep does to one sender.

A sweep walks through both partitions and tries the lock of everybody it finds
there.  For one sender all of that comes down to a single question: if the
sender's lock is held the entry stays as it is, and otherwise `Entry.sweep` says
what is left of it.  The handles on locks are the same afterwards
(`sweepAt_spec`), so that nobody notices a sweep but for what is gone.  With it goes
the lock of a sender who has no handles and nothing cached (`get?_locks_sweepAt_eq`).
-/
import DialogueStore.Cache.Sweep
import DialogueStore.Proofs.Entry

namespace DialogueStore

namespace Entry

variable (policy : Retention) (now : Float)

/-- Whether the record in a partition is too old to be kept. -/
def isStale (p : Partition) (x : Entry) : Bool :=
  match x.record p with
  | some r =>
    match r.freshness with
    | .ok (some latest) => Cache.isStale now (policy.of p) latest
    | _ => false
  | none => false

/-- What a sweep of one partition leaves. -/
def sweepPartition (p : Partition) (x : Entry) : Entry :=
  if x.isStale policy now p then x.evict p else x

/-- What a sweep leaves. -/
def sweep (x : Entry) : Entry :=
  (x.sweepPartition policy now .test).sweepPartition policy now .normal

/-- Whether a sweep finds anything too old. -/
def isEvicted (x : Entry) : Bool := x.isStale policy now .test || x.isStale policy now .normal

variable {policy now} {x : Entry} {p : Partition} {r : Record}

theorem isStale_of_record_eq_none {p : Partition} (h : x.record p = none) :
    x.isStale policy now p = false := by
  simp [isStale, h]

theorem isStale_normal_sweepPartition_test :
    (x.sweepPartition policy now .test).isStale policy now .normal =
      x.isStale policy now .normal := by
  unfold sweepPartition
  split <;> rfl

theorem isStale_sweepPartition (p : Partition) :
    (x.sweepPartition policy now p).isStale policy now p = false := by
  unfold sweepPartition
  split
  · exact isStale_of_record_eq_none (record_evict x p)
  · rename_i h
    simpa using h

theorem sweepPartition_sweepPartition (p : Partition) :
    (x.sweepPartition policy now p).sweepPartition policy now p =
      x.sweepPartition policy now p := by
  rw [sweepPartition, isStale_sweepPartition]
  rfl

theorem record_sweepPartition (q : Partition) : (x.sweepPartition policy now q).record p =
    if q = p ∧ x.isStale policy now q = true then none else x.record p := by
  rw [sweepPartition]
  cases hstale : x.isStale policy now q with
  | false => simp
  | true => cases p <;> cases q <;> rfl

/-- A record goes just if it is too old itself, whatever the other partition holds. -/
theorem record_sweep (p : Partition) : (x.sweep policy now).record p =
    if x.isStale policy now p = true then none else x.record p := by
  rw [sweep, record_sweepPartition, record_sweepPartition, isStale_normal_sweepPartition_test]
  cases p <;> cases x.isStale policy now .test <;> cases x.isStale policy now .normal <;> simp

theorem record_sweep_eq_none_iff (hr : x.record p = some r) :
    (x.sweep policy now).record p = none ↔ x.isStale policy now p = true := by
  rw [record_sweep, hr]
  simp

theorem sweep_of_not_isEvicted (h : x.isEvicted policy now = false) :
    x.sweep policy now = x := by
  obtain ⟨ht, hn⟩ := Bool.or_eq_false_iff.1 h
  have htest : x.sweepPartition policy now .test = x := by simp [sweepPartition, ht]
  rw [sweep, htest]
  simp [sweepPartition, hn]

theorem sweep_of_isEmpty (h : x.isEmpty = true) : x.sweep policy now = x := by
  obtain ⟨⟨hnormal, htest⟩, -⟩ :
      (x.normal = none ∧ x.test = none) ∧ x.cursor = none := by simpa [isEmpty] using h
  refine sweep_of_not_isEvicted (Bool.or_eq_false_iff.2 ⟨?_, ?_⟩)
  · exact isStale_of_record_eq_none htest
  · exact isStale_of_record_eq_none hnormal

theorem cursor_sweep_of_isEvicted (h : x.isEvicted policy now = true) :
    (x.sweep policy now).cursor = none := by
  rw [sweep, sweepPartition, isStale_normal_sweepPartition_test]
  split
  · rfl
  · rename_i hn
    have ht : x.isStale policy now .test = true := by simpa [isEvicted, hn] using h
    simp [sweepPartition, ht, evict]

end Entry

namespace Locks

theorem isLocked_congr {l l' : Locks} (h : l'.handles = l.handles) (sender : String) :
    l'.isLocked sender = l.isLocked sender := by
  simp only [isLocked, h]

end Locks

namespace Cache

/-- A part of a sweep, from one state to another: some senders were looked at in a partition. -/
structure Swept (policy : Retention) (now : Float) (p : Partition) (looked : String → Prop)
    (before after : Cache × SweepReport) : Prop where
  coherent : after.1.locks.Coherent
  handles : after.1.locks.handles = before.1.locks.handles
  entry : ∀ s, looked s → before.1.locks.isLocked s = false →
    after.1.entry s = (before.1.entry s).sweepPartition policy now p
  kept : ∀ s, ¬ looked s ∨ before.1.locks.isLocked s = true →
    after.1.entry s = before.1.entry s
  evicted : ∀ s, s ∈ after.2.evicted ↔ s ∈ before.2.evicted ∨
    looked s ∧ before.1.locks.isLocked s = false ∧ (before.1.entry s).isStale policy now p = true

variable {policy : Retention} {now : Float} {p : Partition}

/-- Nothing is dropped where the lock is held or nothing is too old. -/
theorem swept_of_entry_eq {before after : Cache × SweepReport} {sender : String}
    (hc : after.1.locks.Coherent) (hh : after.1.locks.handles = before.1.locks.handles)
    (he : ∀ s, after.1.entry s = before.1.entry s) (hr : after.2.evicted = before.2.evicted)
    (hs : before.1.locks.isLocked sender = false →
      (before.1.entry sender).isStale policy now p = false) :
    Swept policy now p (· = sender) before after where
  coherent := hc
  handles := hh
  entry := by
    rintro s rfl hfree
    simp [he, Entry.sweepPartition, hs hfree]
  kept s _ := he s
  evicted := by
    intro s
    rw [hr]
    constructor
    · exact .inl
    · rintro (hm | ⟨rfl, hfree, hstale⟩)
      · exact hm
      · exact absurd hstale (by simp [hs hfree])

/-- Something too old is dropped under its lock, and it is told in the report. -/
theorem swept_of_evict {c : Cache} {report : SweepReport} {sender : String}
    (hc : c.locks.Coherent) (hfree : c.locks.isLocked sender = false)
    (hstale : (c.entry sender).isStale policy now p = true) :
    Swept policy now p (· = sender) (c, report)
      ((evict { c with locks := (c.locks.lock sender).1 } p sender c.locks.nextHandle).1,
        { report with evicted := report.evicted ++ [sender] }) where
  coherent := by simpa using (hc.lock sender).forgetDrop (hc.find?_lock sender)
  handles := by
    simpa [Locks.forgetIfSole_drop_handles] using Locks.lock_drop_handles hc sender
  entry := by
    rintro s rfl -
    simp [entry_evict, Entry.sweepPartition, hstale]
  kept := by
    intro s hs
    have hne : sender ≠ s := by
      rintro rfl
      simp [hfree] at hs
    simp [entry_evict, hne]
  evicted := by
    intro s
    rw [List.mem_append, List.mem_singleton]
    refine or_congr_right ⟨?_, And.left⟩
    rintro rfl
    exact ⟨rfl, hfree, hstale⟩

theorem tryLock_of_isLocked {c : Cache} {sender : String} (hc : c.locks.Coherent)
    (hbusy : c.locks.isLocked sender = true) : c.tryLock sender =
      ({ c with locks := (c.locks.lock sender).1.drop c.locks.nextHandle }, none) := by
  simp only [tryLock, Locks.tryLock_of_isLocked hc hbusy]

theorem tryLock_of_not_isLocked {c : Cache} {sender : String} (hc : c.locks.Coherent)
    (hfree : c.locks.isLocked sender = false) : c.tryLock sender =
      ({ c with locks := (c.locks.lock sender).1 }, some c.locks.nextHandle) := by
  simp only [tryLock, Locks.tryLock_of_not_isLocked hc hfree]

theorem sweepEntry_swept (policy : Retention) (now : Float) (p : Partition)
    (state : Cache × SweepReport) (hc : state.1.locks.Coherent) (sender : String) :
    Swept policy now p (· = sender) state (sweepEntry policy now p state sender) := by
  obtain ⟨c, report⟩ := state
  have hback := Locks.lock_drop_handles hc sender
  have hcoh : ((c.locks.lock sender).1.drop c.locks.nextHandle).Coherent :=
    (hc.lock sender).drop _
  -- Only where the lock is free, and the record tells its age, anything can be dropped.
  cases hs : c.locks.isLocked sender with
  | true =>
    simp only [sweepEntry, tryLock_of_isLocked hc hs]
    exact swept_of_entry_eq hcoh hback (fun _ => rfl) rfl (fun hfree => by simp [hs] at hfree)
  | false =>
    simp only [sweepEntry, tryLock_of_not_isLocked hc hs, get?_eq, entry_setLocks]
    cases hr : (c.entry sender).record p with
    | none =>
      exact swept_of_entry_eq hcoh hback (fun _ => rfl) rfl
        fun _ => Entry.isStale_of_record_eq_none hr
    | some r =>
      dsimp only
      cases hf : r.freshness with
      | error cause =>
        exact swept_of_entry_eq hcoh hback (fun _ => rfl) rfl
          fun _ => by simp [Entry.isStale, hr, hf]
      | ok latest =>
        cases latest with
        | none =>
          exact swept_of_entry_eq hcoh hback (fun _ => rfl) rfl
            fun _ => by simp [Entry.isStale, hr, hf]
        | some latest =>
          have hstale : (c.entry sender).isStale policy now p =
              Cache.isStale now (policy.of p) latest := by
            simp [Entry.isStale, hr, hf]
          dsimp only
          cases hold : Cache.isStale now (policy.of p) latest with
          | false =>
            exact swept_of_entry_eq hcoh hback (fun _ => rfl) rfl fun _ => hstale.trans hold
          | true =>
            rw [hold] at hstale
            exact swept_of_evict hc hs hstale

theorem Swept.trans {s₁ s₂ s₃ : Cache × SweepReport} {first second : String → Prop}
    (h : Swept policy now p first s₁ s₂) (h' : Swept policy now p second s₂ s₃) :
    Swept policy now p (fun s => first s ∨ second s) s₁ s₃ := by
  have hlock : ∀ s, s₂.1.locks.isLocked s = s₁.1.locks.isLocked s :=
    Locks.isLocked_congr h.handles
  refine ⟨h'.coherent, h'.handles.trans h.handles, ?_, ?_, ?_⟩
  · -- Looking at a sender twice does no more than looking once.
    intro s hs hfree
    have hfree' := (hlock s).trans hfree
    by_cases h₁ : first s <;> by_cases h₂ : second s
    · rw [h'.entry s h₂ hfree', h.entry s h₁ hfree, Entry.sweepPartition_sweepPartition]
    · rw [h'.kept s (.inl h₂), h.entry s h₁ hfree]
    · rw [h'.entry s h₂ hfree', h.kept s (.inl h₁)]
    · exact absurd hs (by simp [h₁, h₂])
  · rintro s (hs | hbusy)
    · rw [h'.kept s (.inl fun h₂ => hs (.inr h₂)), h.kept s (.inl fun h₁ => hs (.inl h₁))]
    · rw [h'.kept s (.inr ((hlock s).trans hbusy)), h.kept s (.inr hbusy)]
  · intro s
    rw [h'.evicted, h.evicted, hlock s]
    by_cases h₁ : first s
    · cases hfree : s₁.1.locks.isLocked s with
      | true => simp
      | false => simp [h.entry s h₁ hfree, h₁, Entry.isStale_sweepPartition]
    · rw [h.kept s (.inl h₁)]
      simp [h₁]

theorem foldl_sweepEntry_swept (policy : Retention) (now : Float) (p : Partition)
    (keys : List String) (state : Cache × SweepReport) (hc : state.1.locks.Coherent) :
    Swept policy now p (· ∈ keys) state (keys.foldl (sweepEntry policy now p) state) := by
  induction keys generalizing state with
  | nil => exact ⟨hc, rfl, by simp, fun _ _ => rfl, by simp⟩
  | cons key keys ih =>
    have hfirst := sweepEntry_swept policy now p state hc key
    have hall := hfirst.trans (ih _ hfirst.coherent)
    simpa only [List.mem_cons, List.foldl_cons] using hall

/-- A partition is swept for everybody, as those who have no record in it have nothing to lose. -/
theorem sweepPartition_swept (policy : Retention) (now : Float) (state : Cache × SweepReport)
    (hc : state.1.locks.Coherent) (p : Partition) :
    Swept policy now p (fun _ => True) state (sweepPartition policy now state p) := by
  have h := foldl_sweepEntry_swept policy now p (state.1.records p).keys state hc
  -- A sender without a record is never stale, so that not looking at it makes no difference.
  have hnone : ∀ s, s ∉ (state.1.records p).keys →
      (state.1.entry s).isStale policy now p = false := by
    intro s hs
    refine Entry.isStale_of_record_eq_none ?_
    rw [← get?_eq]
    cases hg : state.1.get? p s with
    | none => rfl
    | some r => exact absurd (Dict.mem_keys_of_get? hg) hs
  refine ⟨h.coherent, h.handles, ?_, ?_, ?_⟩
  · intro s _ hfree
    by_cases hs : s ∈ (state.1.records p).keys
    · exact h.entry s hs hfree
    · rw [Entry.sweepPartition, hnone s hs]
      exact h.kept s (.inl hs)
  · intro s hs
    exact h.kept s (.inr (hs.resolve_left fun hn => hn trivial))
  · intro s
    rw [sweepPartition, h.evicted]
    by_cases hs : s ∈ (state.1.records p).keys
    · simp [hs]
    · simp [hs, hnone s hs]

/-- **What a sweep does.**  The handles on locks stay as they are, an entry whose lock is held
stays as it is, and of any other entry there is left what `Entry.sweep` says. -/
theorem sweepAt_spec (c : Cache) (hc : c.locks.Coherent) (policy : Retention) (now : Float) :
    (c.sweepAt policy now).1.locks.Coherent ∧
    (c.sweepAt policy now).1.locks.handles = c.locks.handles ∧
    (∀ s, (c.sweepAt policy now).1.entry s =
      if c.locks.isLocked s then c.entry s else (c.entry s).sweep policy now) ∧
    ∀ s, s ∈ (c.sweepAt policy now).2.evicted ↔
      c.locks.isLocked s = false ∧ (c.entry s).isEvicted policy now = true := by
  -- The tests go first; no lock is taken or given back between the two passes.
  have h₁ := sweepPartition_swept policy now (c, {}) hc .test
  have h₂ := sweepPartition_swept policy now _ h₁.coherent .normal
  have hlock : ∀ s, _ = c.locks.isLocked s := Locks.isLocked_congr h₁.handles
  refine ⟨h₂.coherent.prune _, h₂.handles.trans h₁.handles, ?_, ?_⟩
  · intro s
    have hfinal : (c.sweepAt policy now).1.entry s = (sweepPartition policy now
        (sweepPartition policy now (c, {}) .test) .normal).1.entry s := rfl
    rw [hfinal]
    cases hs : c.locks.isLocked s with
    | true =>
      rw [h₂.kept s (.inr ((hlock s).trans hs)), h₁.kept s (.inr hs)]
      rfl
    | false =>
      rw [h₂.entry s trivial ((hlock s).trans hs), h₁.entry s trivial hs]
      rfl
  · intro s
    have hfinal : (c.sweepAt policy now).2.evicted = (sweepPartition policy now
        (sweepPartition policy now (c, {}) .test) .normal).2.evicted := rfl
    rw [hfinal, h₂.evicted, h₁.evicted, hlock s]
    cases hs : c.locks.isLocked s with
    | true => simp
    | false =>
      rw [h₁.entry s trivial hs, Entry.isStale_normal_sweepPartition_test]
      simp [Entry.isEvicted]

/-- When both partitions have been swept, the entries of the lock map stay whose sender has a handle,
or something cached still. -/
theorem get?_locks_sweepAt_eq (c : Cache) (hc : c.locks.Coherent) (policy : Retention) (now : Float)
    (sender : String) :
    (c.sweepAt policy now).1.locks.entries.get? sender =
      ((sweepPartition policy now (sweepPartition policy now (c, {}) .test)
        .normal).1.locks.entries.get? sender).filter fun _ =>
          c.locks.handles.any (fun h => h.sender = sender) ||
            !((c.sweepAt policy now).1.entry sender).isEmpty := by
  have h₁ := sweepPartition_swept policy now (c, {}) hc .test
  have h₂ := sweepPartition_swept policy now _ h₁.coherent .normal
  obtain ⟨swept, hswept⟩ : ∃ swept : Cache, (sweepPartition policy now
      (sweepPartition policy now (c, {}) .test) .normal).1 = swept := ⟨_, rfl⟩
  have hfinal : (c.sweepAt policy now).1 =
      { swept with locks := swept.locks.prune swept.hasEntries } := by
    rw [← hswept]
    rfl
  have hcoherent : swept.locks.Coherent := hswept ▸ h₂.coherent
  have hhandles : swept.locks.handles = c.locks.handles := by
    rw [← hswept, h₂.handles, h₁.handles]
  rw [hswept, hfinal, hcoherent.get?_prune, hhandles, hasEntries_eq]
  rfl

/-- A sweep forgets the lock of a sender on whom nobody has a handle and for whom it leaves nothing
cached. -/
theorem get?_locks_sweepAt (c : Cache) (hc : c.locks.Coherent) (policy : Retention) (now : Float)
    {sender : String} (hidle : ∀ h ∈ c.locks.handles, h.sender ≠ sender)
    (hempty : ((c.sweepAt policy now).1.entry sender).isEmpty = true) :
    (c.sweepAt policy now).1.locks.entries.get? sender = none := by
  have hany : c.locks.handles.any (fun h => h.sender = sender) = false := by simpa using hidle
  rw [get?_locks_sweepAt_eq c hc, hany, hempty, Option.filter_eq_none_iff]
  exact fun _ _ => Bool.false_ne_true

end Cache

end DialogueStore
