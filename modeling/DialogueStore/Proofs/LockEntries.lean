/-
The lock map has an entry for those whose record is cached.

Whoever asks for a lock makes an entry of the lock map, and most senders that are asked
for are unknown.  Their entries go again: a retrieve that leaves nothing cached takes
its sender's entry with it unless somebody else has a handle on the lock, a sweep takes
the entries of those it evicts, and in the end of a sweep all idle entries go for which
nothing is cached.  Where a task is dropped, nobody takes its entry before the next sweep.

* `Engine.fenced_after` — what is cached has an entry in the lock map, after every run,
* `Engine.wanted_of_entry` — an entry has a task of its sender, or something is cached,
  as long as none of the sender's tasks was dropped,
* `Engine.entry_iff_record` — the two together, for a sender that has no task.

Design notes: an entry that is forgotten with an eviction may be forgotten because all
that is cached for a sender goes with its record (`Entry.Whole`).  Of a cache in general
this is not true, since a sender could have records in both partitions, and only one of
them is evicted at a time.
-/
import DialogueStore.Proofs.Isolation

namespace DialogueStore

/-! ### Forgetting the entry of a lock -/

namespace Locks

variable {l : Locks} {h : Handle} {id : Nat} {sender other : String}

/-- The entries of others stay when an entry is forgotten. -/
theorem get?_forgetIfSole_of_ne (hne : sender ≠ other) :
    (l.forgetIfSole sender).entries.get? other = l.entries.get? other := by
  unfold forgetIfSole
  split
  · split
    · exact (Dict.get?_erase _ _ _).trans (if_neg hne)
    · rfl
  · rfl

/-- A handle without another one of its sender is alone on its mutex. -/
theorem Coherent.handleCount_eq_one (hl : l.Coherent) (hm : h ∈ l.handles)
    (halone : ∀ x ∈ l.handles, x.id ≠ h.id → x.sender ≠ h.sender) :
    l.handleCount h.mutex = 1 := by
  -- Handles share a mutex only if they are of one sender, and so none but `h` is counted.
  have hsame : ∀ x ∈ l.handles, decide (x.mutex = h.mutex) = true ↔ (x == h) = true := by
    intro x hx
    rw [decide_eq_true_iff, beq_iff_eq, hl.mutex_eq_iff hx hm]
    constructor
    · intro hs
      by_contra hne
      have hid : x.id ≠ h.id := fun hid => hne (hl.eq_of_id hx hm hid)
      exact halone x hx hid hs
    · rintro rfl
      rfl
  have hcount : l.handleCount h.mutex = l.handles.count h := List.countP_congr hsame
  rw [hcount]
  exact List.count_eq_one_of_mem (hl.ids.of_map _) hm

/-- Where an entry stays although one of the sender's handles was to take it along, somebody else
has a handle. -/
theorem Coherent.exists_other (hl : l.Coherent) (hf : l.find? id = some h)
    (hentry : ((l.forgetIfSole h.sender).drop id).entries.contains h.sender = true) :
    ∃ x ∈ l.handles, x.id ≠ id ∧ x.sender = h.sender := by
  obtain ⟨hm, rfl⟩ := hl.find?_eq_some.1 hf
  by_contra hnone
  -- Otherwise the handle would be the only one, and the entry would have been forgotten.
  have halone : ∀ x ∈ l.handles, x.id ≠ h.id → x.sender ≠ h.sender :=
    fun x hx hid hs => hnone ⟨x, hx, hid, hs⟩
  have hgone : ((l.forgetIfSole h.sender).drop h.id).entries.get? h.sender = none := by
    rw [drop_entries, forgetIfSole, hl.stored h hm]
    dsimp only
    rw [if_pos (hl.handleCount_eq_one hm halone)]
    exact (Dict.get?_erase _ _ _).trans (if_pos rfl)
  rw [Dict.contains, hgone] at hentry
  cases hentry

end Locks

/-! ### What a sweep does to the entries -/

namespace Entry

variable {x : Entry}

/-- With a record in a partition the entry is not empty. -/
theorem isEmpty_of_record {p : Partition} (h : (x.record p).isSome = true) :
    x.isEmpty = false := by
  cases p with
  | normal =>
    have hnormal : x.normal.isSome = true := h
    simp [Entry.isEmpty, Option.isNone_eq_false_iff.2 hnormal]
  | test =>
    have htest : x.test.isSome = true := h
    simp [Entry.isEmpty, Option.isNone_eq_false_iff.2 htest]

/-- All that is cached goes when a record is evicted. -/
def Whole (x : Entry) : Prop := ∀ p, (x.record p).isSome = true → (x.evict p).isEmpty = true

theorem Whole.of_isEmpty (h : x.isEmpty = true) : x.Whole := by
  obtain ⟨⟨hnormal, htest⟩, -⟩ :
      (x.normal = none ∧ x.test = none) ∧ x.cursor = none := by simpa [isEmpty] using h
  rintro (_ | _) hsome
  · rw [record, hnormal] at hsome
    cases hsome
  · rw [record, htest] at hsome
    cases hsome

theorem Regular.whole (h : x.Regular) : x.Whole := by
  rintro (_ | _) hsome
  · simp [evict, setRecord, isEmpty, h.test]
  · rw [record, h.test] at hsome
    cases hsome

theorem Local.whole (h : x.Local) : x.Whole := by
  rintro (_ | _) hsome
  · rw [record, h.normal] at hsome
    cases hsome
  · simp [evict, setRecord, isEmpty, h.normal]

end Entry

namespace Cache

variable {policy : Retention} {now : Float} {p : Partition} {c : Cache} {sender other : String}

/-- What is cached for a sender has an entry in the lock map, and all of it goes at once. -/
structure Fenced (c : Cache) (sender : String) : Prop where
  whole : (c.entry sender).Whole
  locked : (c.entry sender).isEmpty = false → c.locks.entries.contains sender = true

/-- Entries of the lock map may be added, and nothing else happens. -/
theorem Fenced.mono {locks : Locks} (h : c.Fenced sender)
    (hmore : c.locks.entries.contains sender = true → locks.entries.contains sender = true) :
    Fenced { c with locks } sender :=
  ⟨h.whole, fun hcached => hmore (h.locked hcached)⟩

theorem contains_lock (l : Locks) (sender : String)
    (h : l.entries.contains other = true) : (l.lock sender).1.entries.contains other = true := by
  rw [Dict.contains, Locks.lock_get?]
  split
  · rfl
  · exact h

/-- A lock is taken, or its entry is there at least. -/
theorem tryLock_cases (c : Cache) (sender : String) :
    (∃ locks : Locks, locks.entries = (c.locks.lock sender).1.entries ∧
      c.tryLock sender = ({ c with locks }, none)) ∨
    ∃ id, c.tryLock sender = ({ c with locks := (c.locks.lock sender).1 }, some id) := by
  cases hholds : (c.locks.lock sender).1.holds (c.locks.lock sender).2 with
  | false =>
    refine .inl ⟨(c.locks.lock sender).1.drop (c.locks.lock sender).2, Locks.drop_entries _ _, ?_⟩
    simp only [tryLock, Locks.tryLock, hholds, Bool.false_eq_true, if_false]
  | true =>
    refine .inr ⟨(c.locks.lock sender).2, ?_⟩
    simp only [tryLock, Locks.tryLock, hholds, if_true]

/-- A sweep that looks at an entry makes an entry in the lock map, and it either leaves the rest as
it is or evicts the entry under its lock. -/
theorem sweepEntry_cases (policy : Retention) (now : Float) (p : Partition)
    (state : Cache × SweepReport) (sender : String) :
    (∃ locks : Locks, locks.entries = (state.1.locks.lock sender).1.entries ∧
      (sweepEntry policy now p state sender).1 = { state.1 with locks }) ∨
    ((state.1.entry sender).record p).isSome = true ∧ ∃ id,
      (sweepEntry policy now p state sender).1 =
        (evict { state.1 with locks := (state.1.locks.lock sender).1 } p sender id).1 := by
  obtain ⟨c, report⟩ := state
  rcases tryLock_cases c sender with ⟨locks, hentries, htry⟩ | ⟨id, htry⟩
  · refine .inl ⟨locks, hentries, ?_⟩
    rw [sweepEntry, htry]
  · -- The lock is given back in all cases but one.
    have hback : ((c.locks.lock sender).1.drop id).entries = (c.locks.lock sender).1.entries :=
      Locks.drop_entries _ _
    simp only [sweepEntry, htry, get?_eq, entry_setLocks]
    cases hr : (c.entry sender).record p with
    | none => exact .inl ⟨_, hback, rfl⟩
    | some r =>
      dsimp only
      split
      · split
        · exact .inr ⟨rfl, id, rfl⟩
        · exact .inl ⟨_, hback, rfl⟩
      · exact .inl ⟨_, hback, rfl⟩
      · exact .inl ⟨_, hback, rfl⟩

/-- Looking at one sender keeps the entries of all fenced ones. -/
theorem sweepEntry_fenced (state : Cache × SweepReport) (h : state.1.Fenced other)
    (sender : String) : (sweepEntry policy now p state sender).1.Fenced other := by
  obtain ⟨c, report⟩ := state
  have hmore : c.locks.entries.contains other = true →
      (c.locks.lock sender).1.entries.contains other = true := contains_lock c.locks sender
  rcases sweepEntry_cases policy now p (c, report) sender with
    ⟨locks, hentries, heq⟩ | ⟨hsome, id, heq⟩
  · -- The entry stays as it is, and no lock entry goes.
    rw [heq]
    refine h.mono fun hlocked => ?_
    rw [hentries]
    exact hmore hlocked
  · rw [heq]
    by_cases hs : sender = other
    · -- The entry goes, and nothing is left that would need it.
      subst hs
      have hempty : ((evict { c with locks := (c.locks.lock sender).1 } p sender id).1.entry
          sender).isEmpty = true := by
        rw [entry_evict, if_pos rfl]
        exact h.whole p hsome
      refine ⟨.of_isEmpty hempty, fun hcached => ?_⟩
      rw [hempty] at hcached
      cases hcached
    · have hsame : (evict { c with locks := (c.locks.lock sender).1 } p sender id).1.entry other =
          c.entry other := by
        rw [entry_evict, if_neg hs]
        rfl
      refine ⟨hsame ▸ h.whole, fun hcached => ?_⟩
      rw [hsame] at hcached
      rw [Dict.contains, evict_locks, Locks.drop_entries, Locks.get?_forgetIfSole_of_ne hs]
      exact hmore (h.locked hcached)

theorem foldl_sweepEntry_fenced (keys : List String) (state : Cache × SweepReport)
    (h : state.1.Fenced sender) : (keys.foldl (sweepEntry policy now p) state).1.Fenced sender := by
  induction keys generalizing state with
  | nil => exact h
  | cons key keys ih => exact ih _ (sweepEntry_fenced state h key)

/-- **A sweep keeps the lock of what it keeps.** -/
theorem sweepAt_fenced (hc : c.locks.Coherent) (h : c.Fenced sender) (policy : Retention)
    (now : Float) : (c.sweepAt policy now).1.Fenced sender := by
  have hswept : (sweepPartition policy now (sweepPartition policy now (c, {}) .test)
      .normal).1.Fenced sender :=
    foldl_sweepEntry_fenced _ _ (foldl_sweepEntry_fenced _ (c, {}) h)
  refine ⟨hswept.whole, fun hcached => ?_⟩
  -- What is kept has not been forgotten before, and it is not pruned.
  obtain ⟨mutex, hmutex⟩ := Option.isSome_iff_exists.1 (hswept.locked hcached)
  rw [Dict.contains, get?_locks_sweepAt_eq c hc, hmutex, hcached, Bool.not_false, Bool.or_true]
  rfl

end Cache

/-! ### The entries after a run -/

/-- Each handle is that of a task of its sender. -/
theorem EngineState.Sound.exists_task {e : Engine} {s : EngineState} (hs : s.Sound e) {h : Handle}
    (hm : h ∈ s.cache.locks.handles) : ∃ t ∈ s.tasks, t.handle = h.id ∧ t.sender = h.sender := by
  obtain ⟨t, ht, hth⟩ := hs.owned h hm
  obtain ⟨own, hown, hid, hsender, -⟩ := hs.handle t ht
  obtain rfl := hs.coherent.eq_of_id hown hm (hid.trans hth)
  exact ⟨t, ht, hth, hsender.symm⟩

/-- A sweep takes the entry of a sender that has no task, unless something is cached for it. -/
theorem EngineState.Sound.isEmpty_sweepAt {e : Engine} {s : EngineState} (hs : s.Sound e)
    {sender : String} (hidle : ∀ t ∈ s.tasks, t.sender ≠ sender) {policy : Retention} {now : Float}
    (hentry : (s.cache.sweepAt policy now).1.locks.entries.contains sender = true) :
    ((s.cache.sweepAt policy now).1.entry sender).isEmpty = false := by
  have hhandles : ∀ h ∈ s.cache.locks.handles, h.sender ≠ sender := by
    intro h hm hsender
    obtain ⟨t, ht, -, hts⟩ := hs.exists_task hm
    exact hidle t ht (hts.trans hsender)
  by_contra hempty
  have hgone := s.cache.get?_locks_sweepAt hs.coherent policy now hhandles
    (eq_true_of_ne_false hempty)
  rw [Dict.contains, hgone] at hentry
  cases hentry

namespace Engine

variable {e : Engine} {sender : String} {l actions : List Action}

/-- Test senders or not, all that is cached for a sender goes at once. -/
theorem whole_entry (actions : List Action) (sender : String) :
    ((e.after actions).cache.entry sender).Whole := by
  cases htest : e.isTest sender with
  | true => exact (local_entry htest actions).whole
  | false => exact (regular_entry htest actions).whole

/-- Where anything is cached, there is a record. -/
theorem record_of_not_isEmpty (actions : List Action)
    (hcached : ((e.after actions).cache.entry sender).isEmpty = false) :
    (e.after actions).cache.contains .normal sender = true ∨
      (e.after actions).cache.contains .test sender = true := by
  simp only [Cache.contains_eq, Entry.record]
  generalize hx : (e.after actions).cache.entry sender = x at hcached ⊢
  cases htest : e.isTest sender with
  | true =>
    have hlocal := local_entry htest actions
    rw [hx] at hlocal
    refine .inr ?_
    simpa [Entry.isEmpty, hlocal.normal, hlocal.cursor] using hcached
  | false =>
    have hregular := regular_entry htest actions
    rw [hx] at hregular
    refine .inl ?_
    rw [Option.isSome_iff_ne_none]
    intro hnormal
    simp [Entry.isEmpty, hnormal, hregular.test, hregular.cursor hnormal] at hcached

/-- **What is cached has a lock**, after every run. -/
theorem fenced_after (actions : List Action) (sender : String) :
    (e.after actions).cache.Fenced sender := by
  induction actions using List.reverseRecOn with
  | nil => exact ⟨.of_isEmpty rfl, nofun⟩
  | append_singleton l a ih =>
    refine ⟨whole_entry (l ++ [a]) sender, fun hcached => ?_⟩
    rw [after_append] at hcached ⊢
    have hs := e.sound_after l
    have h := transition (e := e) (e.after l) a
    generalize (e.step (e.after l) a).1 = s', (e.step (e.after l) a).2 = effects at h hcached ⊢
    cases h with
    | ignored | called => exact ih.locked hcached
    | queued _ _ hlocks hentry =>
      -- Asking for a lock adds an entry at most.
      rw [hentry] at hcached
      rw [hlocks]
      exact Cache.contains_lock _ _ (ih.locked hcached)
    | swept now => exact (Cache.sweepAt_fenced hs.coherent ih _ now).locked hcached
    | @left _ t _ _ hactor _ hleft =>
      rw [hleft.entry] at hcached
      rw [Dict.contains, hleft.locks, Locks.drop_entries]
      by_cases hsender : t.sender = sender
      · -- The task has had a handle, and a lock that is still needed is not forgotten.
        subst hsender
        rw [if_pos rfl] at hcached
        obtain ⟨own, hown, hsame⟩ := hs.find?_handle (EngineState.mem_of_actor? hactor)
        have hstored := hs.coherent.stored own (hs.coherent.find?_eq_some.1 hown).1
        rw [hcached, Bool.and_false, if_neg Bool.false_ne_true, ← hsame, hstored]
        rfl
      · rw [if_neg hsender] at hcached
        split
        · rw [Locks.get?_forgetIfSole_of_ne hsender]
          exact ih.locked hcached
        · exact ih.locked hcached

/-- In a run, no task of a sender is dropped. -/
def NoneDropped (e : Engine) (sender : String) (actions : List Action) : Prop :=
  ∀ m ∈ moments actions, ∀ id t, m.action = .cancel id → e.actor? m = some t → t.sender ≠ sender

theorem NoneDropped.of_append {a : Action} (h : e.NoneDropped sender (l ++ [a])) :
    e.NoneDropped sender l :=
  fun m hm => h m (by rw [moments_append]; exact List.mem_append_left _ hm)

/-- A save that ends by itself leaves a record. -/
theorem not_isEmpty_leave_save {a : Action} {t : Task} {r : Record} {s : EngineState} {x : Entry}
    (hactor : s.actor? a = some t) (ha : ∀ id, a ≠ .cancel id) (hop : t.operation = .save r) :
    (e.leave x t a).1.isEmpty = false := by
  cases a with
  | begin _ _ | sweep _ => cases hactor
  | cancel id => exact absurd rfl (ha id)
  | enter id =>
    rw [leave, hop]
    exact Entry.isEmpty_of_record (p := .test) rfl
  | reply id reply =>
    rw [leave, hop]
    rcases reply with reply | (cause | cursor)
    · exact Entry.isEmpty_of_record (p := .normal) rfl
    · exact Entry.isEmpty_of_record (p := .normal) rfl
    · exact Entry.isEmpty_of_record (p := .normal) rfl

theorem releases_of_retrieve {a : Action} {t : Task} (ha : ∀ id, a ≠ .cancel id)
    (hop : t.operation = .retrieve sender) : t.releases a = true := by
  cases a with
  | cancel id => exact absurd rfl (ha id)
  | begin _ _ | enter _ | reply _ _ | sweep _ => simp only [Task.releases, hop]

/-- A task that ends by itself leaves an entry in the lock map only if there is another task of its
sender, or something cached. -/
theorem wanted_of_left {s s' : EngineState} {a : Action} {t : Task} {effects : List Effect}
    (hs : s.Sound e) (hactor : s.actor? a = some t) (ha : ∀ id, a ≠ .cancel id)
    (h : e.Left s a t s' effects) (hentry : s'.cache.locks.entries.contains t.sender = true) :
    (∃ u ∈ s'.tasks, u.sender = t.sender) ∨ (s'.cache.entry t.sender).isEmpty = false := by
  have hsame : s'.cache.entry t.sender = (e.leave (s.cache.entry t.sender) t a).1 := by
    rw [h.entry, if_pos rfl]
  rw [hsame]
  cases hempty : (e.leave (s.cache.entry t.sender) t a).1.isEmpty with
  | false => exact .inr rfl
  | true =>
    -- Nothing is left, so it was a retrieve, and it gave up the entry with its handle.
    cases hop : t.operation with
    | save r =>
      rw [not_isEmpty_leave_save hactor ha hop] at hempty
      cases hempty
    | retrieve sender =>
      have ht := EngineState.mem_of_actor? hactor
      obtain ⟨own, hown, hsender⟩ := hs.find?_handle ht
      rw [h.locks, releases_of_retrieve ha hop, hempty, Bool.and_self, if_pos rfl,
        ← hsender] at hentry
      obtain ⟨x, hx, hid, hxs⟩ := hs.coherent.exists_other hown hentry
      obtain ⟨u, hu, huh, hus⟩ := hs.exists_task hx
      refine .inl ⟨u, ?_, by rw [hus, hxs, hsender]⟩
      rw [h.tasks, List.mem_filter]
      refine ⟨hu, ?_⟩
      have hne : u.id ≠ t.id := by
        intro hut
        rw [hs.eq_of_id hu ht hut] at huh
        exact hid huh.symm
      simpa using hne

/-- **An entry in the lock map is wanted.**  If none of a sender's tasks was dropped, an entry for
it means that it has a task, or that something is cached for it. -/
theorem wanted_of_entry (hkept : e.NoneDropped sender actions)
    (hentry : (e.after actions).cache.locks.entries.contains sender = true) :
    (∃ t ∈ (e.after actions).tasks, t.sender = sender) ∨
      ((e.after actions).cache.entry sender).isEmpty = false := by
  induction actions using List.reverseRecOn with
  | nil => cases hentry
  | append_singleton l a ih =>
    have ih := ih hkept.of_append
    have hs := e.sound_after l
    rw [after_append] at hentry ⊢
    have h := transition (e := e) (e.after l) a
    generalize (e.step (e.after l) a).1 = s', (e.step (e.after l) a).2 = effects at h hentry ⊢
    cases h with
    | ignored => exact ih hentry
    | called =>
      refine (ih hentry).imp_left ?_
      rintro ⟨t, ht, hsender⟩
      exact ⟨_, EngineState.mem_setStage.2 ⟨t, ht, rfl⟩, hsender⟩
    | @queued id op _ _ htasks hlocks hsame =>
      -- The entry that is made for a new task is wanted by this task.
      rw [hsame, htasks]
      by_cases hop : op.sender = sender
      · refine .inl ⟨_, List.mem_append_right _ (List.mem_singleton.2 rfl), ?_⟩
        rw [Task.sender, Operation.sender_anonymize]
        exact hop
      · rw [Dict.contains, hlocks, Locks.lock_get?, if_neg hop] at hentry
        refine (ih hentry).imp_left ?_
        rintro ⟨t, ht, hsender⟩
        exact ⟨t, List.mem_append_left _ ht, hsender⟩
    | @left _ t _ _ hactor _ hleft =>
      by_cases hsender : t.sender = sender
      · subst hsender
        refine wanted_of_left hs hactor ?_ hleft hentry
        rintro id rfl
        exact hkept ⟨l, .cancel id⟩ (by simp) id t rfl hactor rfl
      · -- A task of another sender leaves everything of this one alone.
        have hlocks : s'.cache.locks.entries.get? sender =
            (e.after l).cache.locks.entries.get? sender := by
          rw [hleft.locks, Locks.drop_entries]
          split
          · exact Locks.get?_forgetIfSole_of_ne hsender
          · rfl
        rw [Dict.contains, hlocks] at hentry
        rw [hleft.entry, if_neg hsender, hleft.tasks]
        refine (ih hentry).imp_left ?_
        rintro ⟨u, hu, hus⟩
        refine ⟨u, List.mem_filter.2 ⟨hu, ?_⟩, hus⟩
        have hne : u.id ≠ t.id := by
          intro hut
          rw [hs.eq_of_id hu (EngineState.mem_of_actor? hactor) hut] at hus
          exact hsender hus
        simpa using hne
    | swept now =>
      by_cases hidle : ∃ t ∈ (e.after l).tasks, t.sender = sender
      · exact .inl hidle
      · have hidle : ∀ t ∈ (e.after l).tasks, t.sender ≠ sender :=
          fun t ht hsender => hidle ⟨t, ht, hsender⟩
        exact .inr (hs.isEmpty_sweepAt hidle hentry)

/-- Something is cached for a sender if there is a record of it in one of the partitions. -/
theorem record_iff (actions : List Action) (sender : String) :
    (∃ p, (e.after actions).cache.contains p sender = true) ↔
      ((e.after actions).cache.entry sender).isEmpty = false := by
  constructor
  · rintro ⟨p, hp⟩
    rw [Cache.contains_eq] at hp
    exact Entry.isEmpty_of_record hp
  · intro hcached
    rcases record_of_not_isEmpty actions hcached with h | h
    · exact ⟨.normal, h⟩
    · exact ⟨.test, h⟩

/-- **No lock outlives its use.**  Let a sender have no task under way.  If none of its tasks was
dropped in the run, it has an entry in the lock map just if it has a cached record.  Otherwise its
entry may have stayed, but after a sweep it is there just if there is a cached record. -/
theorem entry_iff_record (actions : List Action) (sender : String)
    (hidle : ∀ t ∈ (e.after actions).tasks, t.sender ≠ sender) :
    (e.NoneDropped sender actions →
      ((e.after actions).cache.locks.entries.contains sender = true ↔
        ∃ p, (e.after actions).cache.contains p sender = true)) ∧
    ∀ now, let swept := (e.after (actions ++ [.sweep now])).cache
      (swept.locks.entries.contains sender = true ↔ ∃ p, swept.contains p sender = true) := by
  have hs := e.sound_after actions
  refine ⟨fun hkept => ?_, fun now => ?_⟩
  · rw [record_iff]
    constructor
    · intro hentry
      -- A lock entry is there for a task or for a record, and no task is left.
      rcases wanted_of_entry hkept hentry with ⟨t, ht, hsender⟩ | hcached
      · exact absurd hsender (hidle t ht)
      · exact hcached
    · exact (fenced_after actions sender).locked
  · intro swept
    have hswept : swept = ((e.after actions).cache.sweepAt e.config.retention now).1 := by
      simp only [swept, after_append]
      rfl
    have hfenced : swept.Fenced sender := fenced_after (actions ++ [.sweep now]) sender
    rw [record_iff]
    refine ⟨fun hentry => ?_, hfenced.locked⟩
    show (swept.entry sender).isEmpty = false
    rw [hswept] at hentry ⊢
    exact hs.isEmpty_sweepAt hidle hentry

/-! ### Senders that nobody knows -/

/-- Two retrieves of an unknown sender at a time, one of which fails to fetch. -/
def retrieveTogether : List Action :=
  [.begin 0 (.retrieve "ann"), .begin 1 (.retrieve "ann"), .enter 0,
    .reply 0 (.fetched (.ok none)), .enter 1,
    .reply 1 (.fetched (.error (.transport "connection refused")))]

/-- A save that is dropped where it waits for the lock. -/
def droppedSave : List Action := [.begin 0 (.save (conversation [1])), .cancel 0]

/-- The second retrieve takes the lock's entry with it, and the entry of the dropped save stays
until a sweep. -/
theorem entry_iff_record_retrieveTogether :
    (plainEngine.after (retrieveTogether.take 4)).cache.locks.entries.contains "ann" = true ∧
    (plainEngine.after retrieveTogether).cache.locks.entries.contains "ann" = false ∧
    (plainEngine.after droppedSave).cache.locks.entries.contains "ann" = true ∧
    (plainEngine.after (droppedSave ++ [.sweep 5])).cache.locks.entries.contains "ann" = false := by
  have hkept : plainEngine.NoneDropped "ann" retrieveTogether := by
    intro m hm id t haction
    simp only [retrieveTogether, moments, momentsFrom, List.mem_cons, List.not_mem_nil,
      or_false] at hm
    rcases hm with rfl | rfl | rfl | rfl | rfl | rfl <;> cases haction
  have hanswered : ∀ t ∈ (plainEngine.after retrieveTogether).tasks, t.sender ≠ "ann" := by
    have htasks : (plainEngine.after retrieveTogether).tasks = [] := rfl
    rw [htasks]
    exact List.forall_mem_nil _
  have hdropped : ∀ t ∈ (plainEngine.after droppedSave).tasks, t.sender ≠ "ann" := by
    have htasks : (plainEngine.after droppedSave).tasks = [] := rfl
    rw [htasks]
    exact List.forall_mem_nil _
  refine ⟨rfl, ?_, rfl, ?_⟩
  · rw [← Bool.not_eq_true, (entry_iff_record retrieveTogether "ann" hanswered).1 hkept]
    rintro ⟨_ | _, hp⟩ <;> cases hp
  · have hswept := (entry_iff_record droppedSave "ann" hdropped).2 5
    rw [← Bool.not_eq_true]
    intro hentry
    obtain ⟨_ | _, hp⟩ := hswept.1 hentry <;> cases hp

end Engine

end DialogueStore
