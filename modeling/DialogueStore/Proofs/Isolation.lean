/-
Test conversations stay by themselves.

A sender is a test sender or it is not, and what the cache holds for it is of one
kind accordingly: a test record and nothing else (`Entry.Local`), or a record that is
exchanged with the remote store and perhaps a cursor (`Entry.Regular`).  Nothing of a
test sender is ever asked for, handed over or published.

* `Engine.local_entry` — what is cached for test senders,
* `Engine.named_entry` — records are cached under their own names, as long as the
  remote store answers with the conversation that it was asked for,
* `Engine.test_senders_apart` — all of it together, for every run.
-/
import DialogueStore.Proofs.FirstWrite
import DialogueStore.Proofs.Records

namespace DialogueStore

namespace Entry

variable {x : Entry}

/-- What is cached for a sender stays local: there is no record to exchange, and no cursor. -/
structure Local (x : Entry) : Prop where
  normal : x.normal = none
  cursor : x.cursor = none

theorem Local.empty : Local {} := ⟨rfl, rfl⟩

theorem Local.sweep (h : x.Local) (policy : Retention) (now : Float) :
    (x.sweep policy now).Local := by
  refine ⟨?_, ?_⟩
  · rw [Option.eq_none_iff_forall_ne_some]
    intro r hr
    have hx : x.normal = some r := record_of_sweep (p := .normal) hr
    rw [h.normal] at hx
    cases hx
  · rw [Engine.cursor_sweep, h.cursor]
    split <;> rfl

theorem Local.performLocally (h : x.Local) (op : Operation) :
    (Engine.performLocally x op).1.Local := by
  cases op with
  | save r => exact ⟨h.normal, h.cursor⟩
  | retrieve sender => exact h

end Entry

namespace Engine

variable {e : Engine} {sender : String}

/-- All that is cached for a test sender stays local. -/
theorem local_entry (htest : e.isTest sender = true) (actions : List Action) :
    ((e.after actions).cache.entry sender).Local := by
  refine entry_invariant actions .empty (fun x policy now h => h.sweep policy now) ?_
  rintro ⟨past, a⟩ - t hactor - hsender hx
  cases a with
  | begin _ _ | sweep _ => cases hactor
  | enter id => exact hx.performLocally t.operation
  | cancel id => exact hx
  | reply id r =>
    -- No request is made for a test sender, so none of its tasks waits for a reply.
    have hmem := EngineState.mem_of_actor? hactor
    obtain ⟨-, hw⟩ := EngineState.actor?_reply.1 hactor
    cases hstage : t.stage with
    | queued => simp [Task.awaits, hstage] at hw
    | calling c =>
      have hnot := ((e.sound_after past).calls t hmem c hstage).1
      rw [hsender, htest] at hnot
      cases hnot

/-- Of a test sender there is no record to exchange, and no cursor. -/
theorem contains_of_isTest (htest : e.isTest sender = true) (actions : List Action) :
    (e.after actions).cache.contains .normal sender = false ∧
      (e.after actions).cache.cursors.contains sender = false := by
  have hlocal := local_entry htest actions
  refine ⟨?_, ?_⟩
  · rw [Cache.contains_eq, Entry.record, hlocal.normal]
    rfl
  · have hcursor : (e.after actions).cache.cursors.get? sender = none := hlocal.cursor
    rw [Dict.contains, hcursor]
    rfl

/-- Of any other sender there is no test record, and no cursor without a record. -/
theorem contains_of_not_isTest (htest : e.isTest sender = false) (actions : List Action) :
    (e.after actions).cache.contains .test sender = false ∧
      ((e.after actions).cache.cursors.contains sender = true →
        (e.after actions).cache.contains .normal sender = true) := by
  have hregular := regular_entry htest actions
  refine ⟨?_, ?_⟩
  · rw [Cache.contains_eq, Entry.record, hregular.test]
    rfl
  · intro hcursor
    rw [Cache.contains_eq, Entry.record, Option.isSome_iff_ne_none]
    intro hnormal
    have hnone : (e.after actions).cache.cursors.get? sender = none := hregular.cursor hnormal
    rw [Dict.contains, hnone] at hcursor
    cases hcursor

/-- In a run, each snapshot names the sender that was asked for, or nobody. -/
def NamesAsked (e : Engine) (actions : List Action) : Prop :=
  ∀ m ∈ moments actions, ∀ t id snapshot, e.actor? m = some t →
    m.action = .reply id (.fetched (.ok (some snapshot))) →
    snapshot.tracker.senderId = "" ∨ snapshot.tracker.senderId = t.sender

/-- A merged record is of the sender that was asked for, if the fetched one is or names nobody. -/
theorem senderId_merge {cached : Option Record} {remote : Record} (maxEvents : Nat)
    (hcached : ∀ r ∈ cached, r.senderId = sender)
    (hremote : remote.senderId = "" ∨ remote.senderId = sender) :
    (Record.merge sender cached remote maxEvents).senderId = sender := by
  cases cached with
  | none =>
    rw [Record.merge]
    split
    · rfl
    · rename_i hempty
      exact hremote.resolve_left (by simpa using hempty)
  | some r =>
    rw [Record.merge]
    dsimp only
    split
    · exact hcached r rfl
    · rename_i hempty
      exact hremote.resolve_left (by simpa using hempty)

/-- Records are cached under the name of their sender. -/
theorem named_entry {actions : List Action} (hnames : e.NamesAsked actions) (sender : String) :
    ((e.after actions).cache.entry sender).All fun r => r.senderId = sender := by
  refine all_entry actions ?_
  rintro ⟨past, a⟩ hm t hactor rfl
  refine ⟨fun r hop => (sender_of_save hop).symm, ?_⟩
  rintro id snapshot rfl hcached
  exact senderId_merge _ hcached (hnames _ hm t id snapshot hactor rfl)

/-- **Test conversations stay by themselves, and the maps of the cache fit together.**  After every
run, what is cached as a test conversation is one of a test sender, and records to exchange and
cursors are not; so no sender has both.  Whoever has a cursor has a record.  No request is ever made
for a test sender, and nothing of one is published.  And if the remote store answers each fetch with
the conversation it was asked for, every record is cached under its own sender's name. -/
theorem test_senders_apart (e : Engine) (actions : List Action) :
    (∀ sender, (e.after actions).cache.contains .test sender = true → e.isTest sender = true) ∧
    (∀ sender, (e.after actions).cache.contains .normal sender = true ∨
      (e.after actions).cache.cursors.contains sender = true → e.isTest sender = false) ∧
    (∀ sender, (e.after actions).cache.contains .test sender = true →
      (e.after actions).cache.contains .normal sender = false ∧
      (e.after actions).cache.cursors.contains sender = false) ∧
    (∀ sender, (e.after actions).cache.cursors.contains sender = true →
      (e.after actions).cache.contains .normal sender = true) ∧
    (∀ id c, .call id c ∈ (e.run {} actions).2 → e.isTest c.senderId = false) ∧
    (∀ sender events, .publish sender events ∈ (e.run {} actions).2 →
      e.isTest sender = false) ∧
    (e.NamesAsked actions → ∀ p sender r,
      (e.after actions).cache.get? p sender = some r → r.senderId = sender) := by
  -- Nothing of a regular sender is ever in the test partition, nor the other way round.
  have htest : ∀ sender, (e.after actions).cache.contains .test sender = true →
      e.isTest sender = true := by
    intro sender hcontains
    rw [← Bool.not_eq_false]
    intro hnot
    rw [(contains_of_not_isTest hnot actions).1] at hcontains
    cases hcontains
  have hregular : ∀ sender, (e.after actions).cache.contains .normal sender = true ∨
      (e.after actions).cache.cursors.contains sender = true → e.isTest sender = false := by
    intro sender hcontains
    rw [← Bool.not_eq_true]
    intro hyes
    obtain ⟨hnormal, hcursor⟩ := contains_of_isTest hyes actions
    rw [hnormal, hcursor] at hcontains
    simp at hcontains
  refine ⟨htest, hregular, ?_, ?_, ?_, ?_, ?_⟩
  · exact fun sender hcontains => contains_of_isTest (htest sender hcontains) actions
  · intro sender hcursor
    exact (contains_of_not_isTest (hregular sender (.inr hcursor)) actions).2 hcursor
  · -- A request is made at some moment of the run, and there its sender is known.
    intro id c hcall
    rw [run_effects, List.mem_flatMap] at hcall
    obtain ⟨m, -, hcall⟩ := hcall
    exact not_isTest_of_call hcall
  · intro sender events hpublish
    rw [run_effects, List.mem_flatMap] at hpublish
    obtain ⟨m, -, hpublish⟩ := hpublish
    obtain ⟨t, r, -, hnot, hop, rfl, -⟩ := save_of_publish hpublish
    rwa [sender_of_save hop] at hnot
  · intro hnames p sender r hr
    rw [Cache.get?_eq] at hr
    exact named_entry hnames sender p r hr

/-! ### A conversation fetched under no name -/

/-- A retrieve that is answered with a conversation of nobody's. -/
def fetchUnnamed : List Action :=
  [.begin 0 (.retrieve "ann"), .enter 0, .reply 0 (.fetched (.ok (some {})))]

/-- It is cached under the name of the sender that was asked for. -/
theorem named_unnamed : plainEngine.NamesAsked fetchUnnamed ∧
    ∃ r, (plainEngine.after fetchUnnamed).cache.get? .normal "ann" = some r ∧
      r.senderId = "ann" := by
  have hnames : plainEngine.NamesAsked fetchUnnamed := by
    intro m hm t id snapshot hactor haction
    simp only [fetchUnnamed, moments, momentsFrom, List.mem_cons, List.not_mem_nil,
      or_false] at hm
    rcases hm with rfl | rfl | rfl <;> cases haction
    exact .inl rfl
  obtain ⟨r, hr⟩ : ∃ r, (plainEngine.after fetchUnnamed).cache.get? .normal "ann" = some r :=
    ⟨_, rfl⟩
  exact ⟨hnames, r, hr,
    (test_senders_apart plainEngine fetchUnnamed).2.2.2.2.2.2 hnames .normal "ann" r hr⟩

end Engine

end DialogueStore
