/-
What the cache holds for a sender that is no test sender.

Everything of such a sender is in the normal partition: it has no test record,
and it has no cursor without a record (`Entry.Regular`).  That is so after every
run (`Engine.regular_entry`), and a sweep therefore leaves the entry as it is or
leaves nothing of it (`Entry.Regular.sweep_eq`).

What one action makes of such an entry comes down to two cases: a reply makes of
it what the operation makes of it (`Engine.entry_step_reply`), and anything else
changes it by an eviction only (`Engine.entry_step`).
-/
import DialogueStore.Proofs.Provenance

namespace DialogueStore

/-- What is cached for a sender is a conversation that is exchanged with the remote store. -/
structure Entry.Regular (x : Entry) : Prop where
  test : x.test = none
  cursor : x.normal = none → x.cursor = none

namespace Entry.Regular

variable {x : Entry} {e : Engine}

theorem empty : Entry.Regular {} := ⟨rfl, fun _ => rfl⟩

/-- All of it goes in a sweep, or nothing. -/
theorem sweep_eq (h : x.Regular) (policy : Retention) (now : Float) :
    x.sweep policy now = if x.isEvicted policy now then {} else x := by
  have htest : x.isStale policy now .test = false := Entry.isStale_of_record_eq_none h.test
  split
  · rename_i hevicted
    have hnormal : x.isStale policy now .normal = true := by
      simpa [Entry.isEvicted, htest] using hevicted
    simp [Entry.sweep, Entry.sweepPartition, htest, hnormal, Entry.evict, Entry.setRecord, h.test]
  · rename_i hkept
    exact Entry.sweep_of_not_isEvicted (by simpa using hkept)

theorem sweep (h : x.Regular) (policy : Retention) (now : Float) :
    (x.sweep policy now).Regular := by
  rw [h.sweep_eq]
  split
  · exact empty
  · exact h

theorem conclude (h : x.Regular) (op : Operation) (r : Reply) : (e.conclude x op r).1.Regular := by
  cases op with
  | save record =>
    rcases r with reply | (cause | cursor)
    · exact ⟨h.test, nofun⟩
    · exact ⟨h.test, nofun⟩
    · exact ⟨h.test, nofun⟩
  | retrieve sender =>
    rcases r with (cause | _ | snapshot) | reply
    · exact h
    · exact h
    · exact ⟨h.test, nofun⟩
    · exact h

end Entry.Regular

namespace Engine

variable {e : Engine} {sender : String}

/-- What holds of nothing, and is kept by sweeps and by the tasks of the sender that leave, holds of
the sender's entry after a run. -/
theorem entry_invariant {P : Entry → Prop} (actions : List Action) (hempty : P {})
    (hsweep : ∀ x policy now, P x → P (x.sweep policy now))
    (hleave : ∀ m ∈ moments actions, ∀ t, e.actor? m = some t → e.ends t m.action = true →
      t.sender = sender → P ((e.after m.past).cache.entry sender) →
      P (e.leave ((e.after m.past).cache.entry sender) t m.action).1) :
    P ((e.after actions).cache.entry sender) := by
  induction actions using List.reverseRecOn with
  | nil => exact hempty
  | append_singleton l a ih =>
    rw [moments_append, List.forall_mem_append, List.forall_mem_singleton] at hleave
    have ih := ih hleave.1
    have h := transition (e := e) (e.after l) a
    rw [after_append]
    generalize (e.step (e.after l) a).1 = s', (e.step (e.after l) a).2 = effects at h
    -- An entry changes only when a task of its sender leaves, and in sweeps.
    cases h with
    | ignored | called => exact ih
    | queued _ _ _ hentry =>
      rw [hentry]
      exact ih
    | left hactor hends hleft =>
      rw [hleft.entry]
      split
      · rename_i hsender
        exact hleave.2 _ hactor hends hsender ih
      · exact ih
    | swept now =>
      obtain ⟨-, -, hentry, -⟩ :=
        (e.after l).cache.sweepAt_spec (e.sound_after l).coherent e.config.retention now
      rw [hentry]
      split
      · exact ih
      · exact hsweep _ _ now ih

/-- A sender that is no test sender has a regular entry after every run. -/
theorem regular_entry (htest : e.isTest sender = false) (actions : List Action) :
    ((e.after actions).cache.entry sender).Regular := by
  refine entry_invariant actions .empty (fun x policy now h => h.sweep policy now) ?_
  rintro ⟨past, a⟩ - t hactor hends hsender hx
  cases a with
  | begin _ _ | sweep _ => cases hactor
  | enter id =>
    -- Only a test sender's task ends when it gets the lock.
    rw [ends, hsender, htest] at hends
    cases hends
  | reply id r => exact hx.conclude _ r
  | cancel id => exact hx

/-- A sweep leaves nothing of a sender that it evicts, and whoever is kept keeps everything. -/
theorem entry_sweepAt (htest : e.isTest sender = false) (l : List Action) (now : Float) :
    ((e.after l).cache.sweepAt e.config.retention now).1.entry sender =
      if (e.effects ⟨l, .sweep now⟩).any (Effect.evicts sender) then {}
      else (e.after l).cache.entry sender := by
  obtain ⟨-, -, hentry, -⟩ :=
    (e.after l).cache.sweepAt_spec (e.sound_after l).coherent e.config.retention now
  have hevicts := evicts_iff (e := e) l now sender
  rw [hentry]
  cases hlocked : (e.after l).cache.locks.isLocked sender with
  | true => rw [if_pos rfl, if_neg (by rw [hevicts, hlocked]; simp)]
  | false =>
    rw [if_neg (by simp), (regular_entry htest l).sweep_eq]
    simp only [hevicts, hlocked, true_and]

/-! ### What one action makes of an entry -/

/-- Nobody is evicted but in a sweep. -/
theorem not_evicts {l : List Action} {a : Action} (ha : ∀ now, a ≠ .sweep now) (sender : String) :
    (e.effects ⟨l, a⟩).any (Effect.evicts sender) = false := by
  rw [effects]
  have h := transition (e := e) (e.after l) a
  generalize (e.step (e.after l) a).1 = s', (e.step (e.after l) a).2 = effects at h
  cases h with
  | ignored | queued => rfl
  | swept now => exact absurd rfl (ha now)
  | @called _ t =>
    rw [announce.eq_def]
    split
    · split <;> rfl
    · rfl
  | left hactor _ hleft =>
    rw [hleft.effects_eq]
    cases a with
    | begin _ _ | sweep _ => cases hactor
    | enter _ | reply _ _ | cancel _ => rfl

/-- But for a reply, an action leaves the entry of a sender as it is, or nothing of it where the
sender is evicted. -/
theorem entry_step (htest : e.isTest sender = false) (l : List Action) {a : Action}
    (ha : ∀ id r, a ≠ .reply id r) : (e.step (e.after l) a).1.cache.entry sender =
      if (e.effects ⟨l, a⟩).any (Effect.evicts sender) then {}
      else (e.after l).cache.entry sender := by
  by_cases hsweep : ∃ now, a = .sweep now
  · obtain ⟨now, rfl⟩ := hsweep
    exact entry_sweepAt htest l now
  · rw [not_evicts (by simpa using hsweep), if_neg (by simp)]
    have h := transition (e := e) (e.after l) a
    generalize (e.step (e.after l) a).1 = s', (e.step (e.after l) a).2 = effects at h
    cases h with
    | ignored | called => rfl
    | queued _ _ _ hentry => exact hentry sender
    | swept now => exact absurd ⟨now, rfl⟩ hsweep
    | left hactor hends hleft =>
      rw [hleft.entry]
      split
      · rename_i hsender
        cases a with
        | begin _ _ | sweep _ => cases hactor
        | reply id r => exact absurd rfl (ha id r)
        | cancel id => rfl
        | enter id =>
          -- Entering ends a task only for a test sender.
          rw [ends, hsender, htest] at hends
          cases hends
      · rfl

/-- A reply makes of its task's sender's entry what the operation makes of it. -/
theorem entry_step_reply {s : EngineState} {t : Task} {id : Nat} {r : Reply}
    (hactor : s.actor? (.reply id r) = some t) :
    (e.step s (.reply id r)).1.cache.entry sender =
      if t.sender = sender then (e.conclude (s.cache.entry sender) t.operation r).1
      else s.cache.entry sender :=
  (step_reply_left hactor).entry sender

/-- No task waits for a reply about a sender that is evicted. -/
theorem idle_of_evicts {l : List Action} {a : Action}
    (hevicts : (e.effects ⟨l, a⟩).any (Effect.evicts sender) = true) :
    ∀ t ∈ (e.after l).tasks, t.callsFor sender = false := by
  intro t ht
  rw [Bool.eq_false_iff]
  intro hcalls
  obtain ⟨hholds, rfl⟩ := (e.sound_after l).holds_of_callsFor ht hcalls
  have hlocked := (e.sound_after l).isLocked_of_holds ht hholds
  by_cases hsweep : ∃ now, a = .sweep now
  · obtain ⟨now, rfl⟩ := hsweep
    rw [((evicts_iff l now _).1 hevicts).1] at hlocked
    cases hlocked
  · rw [not_evicts (by simpa using hsweep)] at hevicts
    cases hevicts

end Engine

end DialogueStore
