/-
What holds of all cached records.

A record comes into the cache in two ways: a save stores it, or a snapshot is merged
into what is cached.  What is true of all that comes in these ways (`Engine.Brings`) is
true of every cached record (`Engine.all_entry`), and so of every record that a
retrieve returns (`Engine.record_of_retrieved`).
-/
import DialogueStore.Proofs.Merging
import DialogueStore.Proofs.Partitions

namespace DialogueStore

namespace Entry

variable {x y : Entry} {R : Record → Prop}

/-- What a sweep leaves has been there before. -/
theorem record_of_sweep {policy : Retention} {now : Float} {p : Partition} {r : Record}
    (h : (x.sweep policy now).record p = some r) : x.record p = some r := by
  have hpartition : ∀ (q : Partition) (y : Entry),
      (y.sweepPartition policy now q).record p = some r → y.record p = some r := by
    intro q y hy
    rw [sweepPartition] at hy
    split at hy
    · cases p <;> cases q <;> first | exact hy | cases hy
    · exact hy
  exact hpartition .test x (hpartition .normal _ h)

/-- All records of an entry have a property. -/
def All (R : Record → Prop) (x : Entry) : Prop := ∀ p r, x.record p = some r → R r

namespace All

theorem empty : All R {} := by
  rintro (_ | _) r ⟨⟩

theorem sweep (h : x.All R) (policy : Retention) (now : Float) : (x.sweep policy now).All R :=
  fun p r hr => h p r (record_of_sweep hr)

/-- The entry with one more record that has the property. -/
theorem put (h : x.All R) {p : Partition} {r : Record} (hr : R r)
    (hsame : ∀ q ≠ p, y.record q = x.record q) (hnew : y.record p = some r) : y.All R := by
  intro q s hs
  by_cases hq : q = p
  · subst hq
    rw [hnew] at hs
    cases hs
    exact hr
  · rw [hsame q hq] at hs
    exact h q s hs

end All

end Entry

namespace Engine

variable {e : Engine} {R : Record → Prop} {sender : String} {t : Task} {a : Action} {x : Entry}

/-- What a task brings into an entry has a property: the record that it saves, and what comes of a
snapshot if what is cached has the property. -/
structure Brings (e : Engine) (R : Record → Prop) (x : Entry) (t : Task) (a : Action) : Prop where
  save : ∀ r, t.operation = .save r → R r
  merge : ∀ id snapshot, a = .reply id (.fetched (.ok (some snapshot))) →
    (∀ r ∈ x.normal, R r) →
      R (Record.merge t.sender x.normal snapshot.tracker e.config.maxEvents.toNat)

theorem all_performLocally (hx : x.All R) (h : ∀ r, t.operation = .save r → R r) :
    (performLocally x t.operation).1.All R := by
  cases hop : t.operation with
  | retrieve sender => exact hx
  | save r =>
    refine hx.put (p := .test) (h r hop) ?_ rfl
    rintro (_ | _) hq
    · rfl
    · exact absurd rfl hq

theorem all_conclude {id : Nat} {r : Reply} (hx : x.All R) (h : e.Brings R x t (.reply id r)) :
    (e.conclude x t.operation r).1.All R := by
  cases hop : t.operation with
  | save record =>
    refine hx.put (p := .normal) (h.save record hop) ?_ ?_
    · rintro (_ | _) hq
      · exact absurd rfl hq
      · rcases r with reply | (cause | cursor) <;> rfl
    · rcases r with reply | (cause | cursor) <;> rfl
  | retrieve sender =>
    -- A failed fetch and an empty one leave the record there was.
    rcases r with (cause | _ | snapshot) | reply
    · exact hx
    · exact hx
    · have hmerge := h.merge id snapshot rfl fun r hr => hx .normal r hr
      rw [sender_of_retrieve hop] at hmerge
      refine hx.put (p := .normal) hmerge ?_ rfl
      rintro (_ | _) hq
      · exact absurd rfl hq
      · rfl
    · exact hx

/-- What is true of all that a task brings into the cache is true of all that it leaves there. -/
theorem all_leave (hx : x.All R) (h : e.Brings R x t a) : (e.leave x t a).1.All R := by
  cases a with
  | enter id => exact all_performLocally hx h.save
  | reply id r => exact all_conclude hx h
  | begin _ _ | cancel _ | sweep _ => exact hx

/-- **What is true of all that comes into the cache is true of all cached records.** -/
theorem all_entry (actions : List Action)
    (h : ∀ m ∈ moments actions, ∀ t, e.actor? m = some t → t.sender = sender →
      e.Brings R ((e.after m.past).cache.entry sender) t m.action) :
    ((e.after actions).cache.entry sender).All R :=
  entry_invariant actions .empty (fun _ policy now hx => hx.sweep policy now)
    fun m hm t hactor _ hsender hx => all_leave hx (h m hm t hactor hsender)

/-- A retrieve that is answered returns what is cached afterwards. -/
theorem normal_of_retrieved {i id : Nat} {r? : Option Record} {reply : Reply}
    (hdone : .done id (.retrieved r?) ∈ (e.leave x t (.reply i reply)).2) :
    (e.conclude x t.operation reply).1.normal = r? := by
  rw [leave, List.mem_singleton] at hdone
  cases hop : t.operation with
  | save record =>
    rw [hop] at hdone
    rcases reply with reply | (cause | cursor) <;> cases hdone
  | retrieve sender =>
    rw [hop] at hdone
    rcases reply with (cause | _ | snapshot) | reply <;>
      simp only [conclude, Effect.done.injEq, Outcome.retrieved.injEq] at hdone ⊢ <;>
      exact hdone.2.symm

/-- A retrieve returns what is cached afterwards, in the one partition or the other. -/
theorem record_of_retrieved {id : Nat} {r : Record}
    (hdone : .done id (.retrieved (some r)) ∈ (e.leave x t a).2) :
    ∃ p, (e.leave x t a).1.record p = some r := by
  cases a with
  | begin _ _ | cancel _ | sweep _ => cases hdone
  | enter i =>
    cases hop : t.operation with
    | save record => simp [leave, performLocally, hop] at hdone
    | retrieve sender =>
      simp only [leave, performLocally, hop, List.mem_singleton, Effect.done.injEq,
        Outcome.retrieved.injEq] at hdone
      exact ⟨.test, by rw [leave, hop]; exact hdone.2.symm⟩
  | reply i reply => exact ⟨.normal, normal_of_retrieved hdone⟩

/-- A save returns the events that it was to store. -/
theorem events_of_saved {id : Nat} {events : List Event}
    (hdone : .done id (.saved events) ∈ (e.leave x t a).2) :
    ∃ r, t.operation = .save r ∧ r.events = events := by
  cases a with
  | begin _ _ | cancel _ | sweep _ => cases hdone
  | enter i =>
    cases hop : t.operation with
    | retrieve sender => simp [leave, performLocally, hop] at hdone
    | save record =>
      simp only [leave, performLocally, hop, List.mem_singleton, Effect.done.injEq,
        Outcome.saved.injEq] at hdone
      exact ⟨record, rfl, hdone.2.symm⟩
  | reply i reply =>
    cases hop : t.operation with
    | retrieve sender =>
      rcases reply with (cause | _ | snapshot) | reply <;> simp [leave, conclude, hop] at hdone
    | save record =>
      rcases reply with reply | (cause | cursor) <;>
        simp only [leave, conclude, hop, List.mem_singleton, Effect.done.injEq,
          Outcome.saved.injEq] at hdone <;> exact ⟨record, rfl, hdone.2.symm⟩

end Engine

end DialogueStore
