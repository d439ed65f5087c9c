/-
What the replay of events comes to.

A replay goes through the events from the first to the last and changes the state as it
goes.  What it comes to can be told by looking backwards from the end: for each part of
the state there are events that set it and events that clear it, and what counts is the
last one that sets it, unless it is cleared afterwards (`Domain.Replayed`).

* `Tracker.get?_slots_apply`, `Tracker.latestMessage_apply`, `Tracker.paused_apply` — what
  one event does to the parts of a state,
* `Domain.replayed` — what a replay comes to,
* `Domain.Replayed.unique` — there is only one tracker of which this is true,
* `Domain.replay_meaning` — both.
-/
import Mathlib.Data.List.DropRight
import DialogueStore.Conversation.Tracker
import DialogueStore.Proofs.Maps

namespace DialogueStore

/-! ### Looking backwards -/

namespace Event

/-- The last event with a property. -/
def last? (p : Event → Bool) (events : List Event) : Option Event := events.reverse.find? p

/-- The events after the last one with a property, and all events if there is none. -/
def since (p : Event → Bool) (events : List Event) : List Event := events.rtakeWhile fun e => !p e

def isRestart (e : Event) : Bool := e.kind = "restart"

/-- Whether the slots hold what they held at the start after the event. -/
def clearsSlots (e : Event) : Bool := e.kind = "reset_slots" ∨ e.kind = "restart"

/-- The name that an event gives, if it is a text. -/
def slotName? (e : Event) : Option String := (e.field? "name").bind Json.text?

/-- Whether the event says what a slot holds. -/
def setsSlot (name : String) (e : Event) : Bool := e.kind = "slot" ∧ e.slotName? = some name

/-- What a slot holds by an event. -/
def slotValue (e : Event) : Json := (e.field? "value").getD .null

/-- Whether the event says if the conversation is paused. -/
def setsPaused (e : Event) : Bool := e.kind = "pause" ∨ e.kind = "resume" ∨ e.kind = "restart"

variable {p q : Event → Bool} {events before after : List Event} {e : Event}

/-- A restart is no message by the user. -/
theorem isUser_of_isRestart (h : e.isRestart = true) : e.isUser = false := by
  rw [isRestart, decide_eq_true_iff] at h
  simp [isUser, userKind, h]

theorem last?_append (p : Event → Bool) (before after : List Event) :
    last? p (before ++ after) = (last? p after).or (last? p before) := by
  rw [last?, List.reverse_append, List.find?_append]
  rfl

theorem last?_append_singleton (p : Event → Bool) (events : List Event) (e : Event) :
    last? p (events ++ [e]) = if p e then some e else last? p events := by
  rw [last?_append]
  cases h : p e <;> simp [last?, h]

theorem last?_eq_none_iff : last? p events = none ↔ ∀ e ∈ events, p e = false := by
  simp [last?]

theorem since_append_singleton (p : Event → Bool) (events : List Event) (e : Event) :
    since p (events ++ [e]) = if p e then [] else since p events ++ [e] := by
  rw [since, List.rtakeWhile_concat]
  cases h : p e <;> simp [since]

/-- After the last event with the property there is none with it. -/
theorem since_append_cons (he : p e = true) (hafter : ∀ x ∈ after, p x = false) :
    since p (before ++ e :: after) = after := by
  induction after using List.reverseRecOn with
  | nil => rw [since_append_singleton, if_pos he]
  | append_singleton after x ih =>
    rw [List.forall_mem_append, List.forall_mem_singleton] at hafter
    rw [← List.cons_append, ← List.append_assoc, since_append_singleton, ih hafter.1,
      if_neg (by simp [hafter.2])]

/-- There is a last event with the property, or none has it. -/
theorem since_cases (p : Event → Bool) (events : List Event) :
    since p events = events ∨
      ∃ before e after, events = before ++ e :: after ∧ p e = true ∧ ∀ x ∈ after, p x = false := by
  induction events using List.reverseRecOn with
  | nil => exact .inl rfl
  | append_singleton events x ih =>
    -- The last event is itself where the list restarts, or it comes behind that place.
    cases hx : p x with
    | true => exact .inr ⟨events, x, [], rfl, hx, nofun⟩
    | false =>
      rcases ih with h | ⟨before, e, after, rfl, he, hafter⟩
      · exact .inl (by rw [since_append_singleton, if_neg (by simp [hx]), h])
      · refine .inr ⟨before, e, after ++ [x], by simp, he, ?_⟩
        rw [List.forall_mem_append, List.forall_mem_singleton]
        exact ⟨hafter, hx⟩

end Event

/-! ### What one event does -/

namespace Tracker

variable {d : Domain} {t : Tracker} {e : Event}

/-- A slot event changes one slot at most. -/
theorem apply_of_slot (he : e.kind = "slot") : t.apply d e = { t with
    slots := match e.slotName? with
      | some name => if d.hasSlot name then t.slots.insert name e.slotValue else t.slots
      | none => t.slots } := by
  simp only [apply, he, Event.slotName?]
  cases (e.field? "name").bind Json.text? with
  | none => rfl
  | some name => by_cases hdeclared : d.hasSlot name <;> simp [hdeclared, Event.slotValue]

/-- What a slot holds after an event. -/
theorem get?_slots_apply (name : String) : (t.apply d e).slots.get? name =
    if e.clearsSlots then d.initialSlots.get? name
    else if e.setsSlot name && d.hasSlot name then some e.slotValue
    else t.slots.get? name := by
  -- Of the kinds of event only a slot event looks at the name.
  by_cases hslot : e.kind = "slot"
  · have hclears : e.clearsSlots = false := by simp [Event.clearsSlots, hslot]
    have hsets : e.setsSlot name = decide (e.slotName? = some name) := by
      simp [Event.setsSlot, hslot]
    rw [apply_of_slot hslot, hclears, if_neg (by simp), hsets]
    cases hname : e.slotName? with
    | none => simp
    | some other =>
      by_cases hother : other = name
      · subst hother
        by_cases hdeclared : d.hasSlot other <;> simp [hdeclared, Dict.get?_insert]
      · by_cases hdeclared : d.hasSlot other <;> simp [hdeclared, hother, Dict.get?_insert]
  · have hsets : e.setsSlot name = false := by simp [Event.setsSlot, hslot]
    rw [hsets]
    unfold apply
    split <;> simp_all [Event.clearsSlots]

theorem latestMessage_apply : (t.apply d e).latestMessage =
    if e.isUser then some e else if e.isRestart then none else t.latestMessage := by
  by_cases hslot : e.kind = "slot"
  · rw [apply_of_slot hslot]
    simp [Event.isUser, Event.userKind, Event.isRestart, hslot]
  · unfold apply
    split <;> simp_all [Event.isUser, Event.userKind, Event.isRestart]

theorem paused_apply : (t.apply d e).paused =
    if e.setsPaused then decide (e.kind = "pause") else t.paused := by
  by_cases hslot : e.kind = "slot"
  · rw [apply_of_slot hslot]
    simp [Event.setsPaused, hslot]
  · unfold apply
    split <;> simp_all [Event.setsPaused]

theorem sorted_slots_apply (hd : d.slots.Sorted) (ht : t.slots.Sorted) :
    (t.apply d e).slots.Sorted := by
  by_cases hslot : e.kind = "slot"
  · rw [apply_of_slot hslot]
    split
    · split
      · exact ht.insert ..
      · exact ht
    · exact ht
  · have hinitial : d.initialSlots.Sorted := hd.mapValues _
    unfold apply
    split <;> simp_all

/-- No event changes whose conversation it is, or what came before. -/
theorem apply_keeps : (t.apply d e).senderId = t.senderId ∧ (t.apply d e).events = t.events := by
  by_cases hslot : e.kind = "slot"
  · rw [apply_of_slot hslot]
    exact ⟨rfl, rfl⟩
  · unfold apply
    split <;> simp_all

end Tracker

/-! ### What a replay comes to -/

namespace Domain

variable {d : Domain} {sender : String} {events : List Event}

/-- A tracker holds what some events come to, looking backwards from the last one. -/
structure Replayed (d : Domain) (sender : String) (events : List Event) (t : Tracker) : Prop where
  senderId : t.senderId = sender
  /-- The slots are those of the domain. -/
  declared : ∀ name, Dict.contains t.slots name = d.hasSlot name
  /-- A slot holds what it was last set to since slots were cleared, or else its initial value. -/
  slots : ∀ name slot, d.slots.get? name = some slot → t.slots.get? name =
    some (((Event.last? (Event.setsSlot name) (Event.since Event.clearsSlots events)).map
      Event.slotValue).getD slot.initialValue)
  /-- The latest message is the last one by the user since the last restart. -/
  latestMessage : t.latestMessage = Event.last? Event.isUser (Event.since Event.isRestart events)
  /-- The conversation is paused if it was neither resumed nor restarted after the last pause. -/
  paused : t.paused = true ↔ ∃ e, Event.last? Event.setsPaused events = some e ∧ e.kind = "pause"
  latestEventTime : t.latestEventTime = events.getLast?.map (·.timestamp)
  events : t.events = events

theorem replay_append (d : Domain) (sender : String) (events : List Event) (e : Event) :
    d.replay sender (events ++ [e]) = (d.replay sender events).step d e := by
  rw [replay, List.foldl_append]
  rfl

theorem get?_slots_replay (d : Domain) (sender : String) (events : List Event) (name : String) :
    (d.replay sender events).slots.get? name = (d.slots.get? name).map fun slot =>
      ((Event.last? (Event.setsSlot name) (Event.since Event.clearsSlots events)).map
        Event.slotValue).getD slot.initialValue := by
  have hinitial := Dict.get?_mapValues Slot.initialValue d.slots name
  -- The last event decides, and the events before it only where it says nothing about the slot.
  induction events using List.reverseRecOn with
  | nil => exact hinitial
  | append_singleton events e ih =>
    have hstep := Tracker.get?_slots_apply (d := d) (t := d.replay sender events) (e := e) name
    rw [replay_append, Event.since_append_singleton]
    refine hstep.trans ?_
    cases hclears : e.clearsSlots with
    | true => exact hinitial
    | false =>
      simp only [Bool.false_eq_true, if_false, Event.last?_append_singleton]
      cases hsets : e.setsSlot name with
      | false => simpa using ih
      | true =>
        rw [if_pos rfl, ih, hasSlot, Dict.contains]
        cases d.slots.get? name <;> rfl

theorem latestMessage_replay (d : Domain) (sender : String) (events : List Event) :
    (d.replay sender events).latestMessage =
      Event.last? Event.isUser (Event.since Event.isRestart events) := by
  induction events using List.reverseRecOn with
  | nil => rfl
  | append_singleton events e ih =>
    have hstep := Tracker.latestMessage_apply (d := d) (t := d.replay sender events) (e := e)
    rw [replay_append, Event.since_append_singleton]
    refine hstep.trans ?_
    rw [ih]
    -- A restart clears the message, and it is where the list that counts begins.
    cases hrestart : e.isRestart with
    | true =>
      rw [Event.isUser_of_isRestart hrestart]
      rfl
    | false => simp only [Bool.false_eq_true, if_false, Event.last?_append_singleton]

theorem paused_replay (d : Domain) (sender : String) (events : List Event) :
    (d.replay sender events).paused = true ↔
      ∃ e, Event.last? Event.setsPaused events = some e ∧ e.kind = "pause" := by
  induction events using List.reverseRecOn with
  | nil => exact ⟨nofun, nofun⟩
  | append_singleton events e ih =>
    have hstep := Tracker.paused_apply (d := d) (t := d.replay sender events) (e := e)
    have hpaused : (d.replay sender (events ++ [e])).paused =
        if e.setsPaused then decide (e.kind = "pause") else (d.replay sender events).paused := by
      rw [replay_append]
      exact hstep
    rw [hpaused, Event.last?_append_singleton]
    cases e.setsPaused with
    | true => simp
    | false => exact ih

theorem latestEventTime_replay (d : Domain) (sender : String) (events : List Event) :
    (d.replay sender events).latestEventTime = events.getLast?.map (·.timestamp) := by
  induction events using List.reverseRecOn with
  | nil => rfl
  | append_singleton events e _ =>
    rw [replay_append, List.getLast?_concat]
    rfl

theorem keeps_replay (d : Domain) (sender : String) (events : List Event) :
    (d.replay sender events).senderId = sender ∧ (d.replay sender events).events = events := by
  induction events using List.reverseRecOn with
  | nil => exact ⟨rfl, rfl⟩
  | append_singleton events e ih =>
    obtain ⟨hsender, hevents⟩ := Tracker.apply_keeps (d := d) (t := d.replay sender events) (e := e)
    rw [replay_append]
    exact ⟨hsender.trans ih.1, congrArg (· ++ [e]) (hevents.trans ih.2)⟩

theorem sorted_slots_replay (hd : d.slots.Sorted) (sender : String) (events : List Event) :
    (d.replay sender events).slots.Sorted := by
  induction events using List.reverseRecOn with
  | nil => exact hd.mapValues _
  | append_singleton events e ih =>
    rw [replay_append]
    exact Tracker.sorted_slots_apply hd ih

theorem replayed (d : Domain) (sender : String) (events : List Event) :
    d.Replayed sender events (d.replay sender events) where
  senderId := (keeps_replay d sender events).1
  declared name := by
    rw [Dict.contains, get?_slots_replay, Option.isSome_map]
    rfl
  slots name slot hslot := by rw [get?_slots_replay, hslot, Option.map_some]
  latestMessage := latestMessage_replay d sender events
  paused := paused_replay d sender events
  latestEventTime := latestEventTime_replay d sender events
  events := (keeps_replay d sender events).2

/-- Two trackers with their slots in order that hold what some events come to are the same. -/
theorem Replayed.unique {t t' : Tracker} (h : d.Replayed sender events t)
    (h' : d.Replayed sender events t') (ht : t.slots.Sorted) (ht' : t'.slots.Sorted) : t = t' := by
  -- The meaning determines each slot, and in key order the slots determine the map.
  have hslots : t.slots = t'.slots := by
    refine ht.ext ht' fun name => ?_
    cases hslot : d.slots.get? name with
    | some slot => rw [h.slots name slot hslot, h'.slots name slot hslot]
    | none =>
      have hnone : ∀ {u : Tracker}, d.Replayed sender events u → u.slots.get? name = none := by
        intro u hu
        have hdeclared := hu.declared name
        rw [hasSlot, Dict.contains, Dict.contains, hslot] at hdeclared
        exact Option.not_isSome_iff_eq_none.1 (by simp [hdeclared])
      rw [hnone h, hnone h']
  have hpaused : t.paused = t'.paused := Bool.eq_iff_iff.2 (h.paused.trans h'.paused.symm)
  obtain ⟨senderId, slots, latestMessage, latestEventTime, paused, evs⟩ := t
  obtain ⟨senderId', slots', latestMessage', latestEventTime', paused', evs'⟩ := t'
  rw [Tracker.mk.injEq]
  exact ⟨h.senderId.trans h'.senderId.symm, hslots, h.latestMessage.trans h'.latestMessage.symm,
    h.latestEventTime.trans h'.latestEventTime.symm, hpaused, h.events.trans h'.events.symm⟩

/-- **A replay comes to what one sees looking backwards from the last event.**  With a domain there
is always a tracker: its slots are those of the domain, each holds what it was last set to since
slots were cleared, the latest message is the last one by the user since the last restart, and so
on for the other parts of a state.  And it is the only tracker of which all this is true. -/
theorem replay_meaning (d : Domain) (sender : String) (events : List Event) :
    ∃ t, DialogueStore.replay (some d) sender events = .ok t ∧ d.Replayed sender events t ∧
      (d.slots.Sorted → t.slots.keys = d.slots.keys ∧
        ∀ t', t'.slots.Sorted → d.Replayed sender events t' → t' = t) := by
  refine ⟨d.replay sender events, rfl, replayed d sender events, fun hd => ?_⟩
  have hsorted := sorted_slots_replay hd sender events
  exact ⟨hsorted.keys_eq hd (replayed d sender events).declared,
    fun t' ht' h => h.unique (replayed d sender events) ht' hsorted⟩

/-- A domain with one slot. -/
def cityDomain : Domain := ⟨[("city", ⟨some "text", .string "unknown"⟩)]⟩

/-- A slot is set, slots are reset, and the conversation is paused after it was restarted. -/
def movedAbout : List Event :=
  [⟨"user", 1, []⟩, ⟨"slot", 2, [("name", .string "city"), ("value", .string "Oulu")]⟩,
    ⟨"restart", 3, []⟩, ⟨"slot", 4, [("name", .string "city")]⟩, ⟨"pause", 5, []⟩]

/-- Nothing is left of the message, and the slot holds null since the last slot event names no
value. -/
theorem replay_meaning_movedAbout : cityDomain.slots.Sorted ∧
    ∃ t, DialogueStore.replay (some cityDomain) "ann" movedAbout = .ok t ∧
      t.slots.keys = ["city"] ∧ t.slots.get? "city" = some .null ∧ t.latestMessage = none ∧
      t.paused = true := by
  have hd : cityDomain.slots.Sorted := List.pairwise_singleton ..
  obtain ⟨t, ht, h, hmap⟩ := replay_meaning cityDomain "ann" movedAbout
  exact ⟨hd, t, ht, (hmap hd).1, h.slots "city" _ rfl, h.latestMessage,
    h.paused.2 ⟨⟨"pause", 5, []⟩, rfl, rfl⟩⟩

end Domain

end DialogueStore
