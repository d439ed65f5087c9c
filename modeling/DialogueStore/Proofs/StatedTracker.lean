/-
The two ways to a tracker.

The tracker of a test conversation is the state that its record states itself, and that of
any other conversation is the replay of its events.  Both find the latest message among
the events, but only the replay knows of restarts: `Event.MessageForgotten` says of which
events this makes a difference, and `Tracker.ofRecord_agrees` that nothing else does.

Design notes: slots and the paused mark are not compared.  A record may state any, and
nothing ties them to its events.
-/
import DialogueStore.Proofs.Freshness
import DialogueStore.Proofs.Replay

namespace DialogueStore

namespace Event

variable {p : Event → Bool} {before after events : List Event} {e : Event}

/-- There is a restart, a message by the user before the last restart, and none after it. -/
def MessageForgotten (events : List Event) : Prop :=
  ∃ before restart after, events = before ++ restart :: after ∧ restart.isRestart = true ∧
    (∀ e ∈ after, e.isRestart = false) ∧ (∃ e ∈ before, e.isUser = true) ∧
      ∀ e ∈ after, e.isUser = false

theorem last?_append_cons (he : p e = false) :
    last? p (before ++ e :: after) = (last? p after).or (last? p before) := by
  rw [List.append_cons, last?_append, last?_append_singleton, if_neg (by simp [he])]

/-- The last message of all is another one than the last message since the restart just if that
message is forgotten. -/
theorem last?_ne_last?_since_iff : last? isUser events ≠ last? isUser (since isRestart events) ↔
    MessageForgotten events := by
  constructor
  · intro hne
    rcases since_cases isRestart events with hall | ⟨before, e, after, rfl, he, hafter⟩
    · rw [hall] at hne
      exact absurd rfl hne
    · -- Behind a restart only later messages count, and the two differ if there are none.
      rw [since_append_cons he hafter, last?_append_cons (isUser_of_isRestart he)] at hne
      cases hlast : last? isUser after with
      | some message =>
        rw [hlast] at hne
        exact absurd rfl hne
      | none =>
        rw [hlast, Option.none_or, Ne, last?_eq_none_iff] at hne
        have hmessage : ∃ message ∈ before, message.isUser = true := by simpa using hne
        exact ⟨before, e, after, rfl, he, hafter, hmessage, last?_eq_none_iff.1 hlast⟩
  · rintro ⟨before, e, after, rfl, he, hafter, ⟨message, hmem, huser⟩, hnone⟩
    rw [since_append_cons he hafter, last?_append_cons (isUser_of_isRestart he),
      last?_eq_none_iff.2 hnone, Option.none_or, Ne, last?_eq_none_iff]
    intro hbefore
    rw [hbefore message hmem] at huser
    cases huser

end Event

/-- **The two ways to a tracker agree, up to a message that a restart makes forget.**  Of a record
that states the time of its last event, or none, the state that it states itself and the replay
of its events have the same sender, events and time.  They have the same latest message as well,
except just if the user's last message came before the last restart. -/
theorem Tracker.ofRecord_agrees (d : Domain) {r : Record} (hdated : r.Dated) :
    ∃ t, replay (some d) r.senderId r.events = .ok t ∧
      (ofRecord r).senderId = t.senderId ∧ (ofRecord r).events = t.events ∧
      (ofRecord r).latestEventTime = t.latestEventTime ∧
      ((ofRecord r).latestMessage ≠ t.latestMessage ↔ Event.MessageForgotten r.events) := by
  have h := d.replayed r.senderId r.events
  refine ⟨d.replay r.senderId r.events, rfl, h.senderId.symm, h.events.symm, ?_, ?_⟩
  · rw [h.latestEventTime]
    exact hdated.latestTime_eq
  · rw [h.latestMessage]
    exact Event.last?_ne_last?_since_iff

/-- A conversation that is restarted after a message. -/
def startedOver : Record := .ofEvents "ann" [⟨"user", 1, []⟩, ⟨"restart", 2, []⟩, ⟨"bot", 3, []⟩]

/-- The record still has the message, and the replay has none. -/
theorem Tracker.ofRecord_agrees_startedOver : startedOver.Dated ∧
    ∃ t, replay (some {}) "ann" startedOver.events = .ok t ∧
      (ofRecord startedOver).latestEventTime = t.latestEventTime ∧
      (ofRecord startedOver).latestMessage ≠ t.latestMessage := by
  have hdated : startedOver.Dated := .inr rfl
  obtain ⟨t, ht, -, -, hlatest, hmessage⟩ := ofRecord_agrees {} hdated
  refine ⟨hdated, t, ht, hlatest, hmessage.2 ⟨[⟨"user", 1, []⟩], ⟨"restart", 2, []⟩,
    [⟨"bot", 3, []⟩], rfl, rfl, by decide, ⟨_, .head _, rfl⟩, by decide⟩⟩

end DialogueStore
