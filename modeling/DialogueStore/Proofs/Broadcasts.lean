/-
What is published of the saves, and what is written.

A save that has got its sender's lock publishes its record and requests its write in
one step, and it makes this step once.  So the batches that are published for a sender
and the writes that are requested for it are two views of one list, that of the saves
which have come so far, whatever becomes of them afterwards.

* `Engine.sendings` — the saves of a sender that have been sent, in their order,
* `Engine.effects_of_sending`, `Engine.silent_of_none` — what is seen of them is all that
  is seen of the sender's saves until they end,
* `Engine.before_ne` — no save is sent twice,
* `Bus.took_effects` — a bus takes all that is published, if anybody listens,
* `Engine.in_step` — batches and writes go in step.

Design notes: a save is known by the actions before its beginning.  Its id may be used
again when it has ended, and two saves may be of the same record.
-/
import Mathlib.Data.List.DropRight
import DialogueStore.Proofs.Cancellation
import DialogueStore.Service

namespace DialogueStore

/-! ### What goes over a bus -/

/-- What an effect brings on a bus. -/
def Effect.onBus : Effect → List TrackerEvent
  | .publish sender events => events.map fun event => ⟨sender, event⟩
  | _ => []

namespace Bus

/-- A bus has taken events in their order, and keeps the latest of them. -/
structure Took (b b' : Bus) (events : List TrackerEvent) : Prop where
  kept : b'.kept = (b.kept ++ events).rtake b.capacity
  total : b'.total = b.total + events.length
  capacity : b'.capacity = b.capacity
  listeners : b'.listeners = b.listeners

variable {b b' b'' : Bus} {l m : List TrackerEvent} {sender : String}

theorem rtake_rtake_append {α : Type} (n : Nat) (l m : List α) :
    (l.rtake n ++ m).rtake n = (l ++ m).rtake n := by
  simp only [List.rtake_eq_reverse_take_reverse, List.reverse_append, List.reverse_reverse,
    List.take_append, List.take_take]
  rw [Nat.min_eq_left (Nat.sub_le _ _)]

theorem Took.refl (hroom : b.kept.length ≤ b.capacity) : b.Took b [] := by
  refine ⟨?_, rfl, rfl, rfl⟩
  rw [List.append_nil, List.rtake, Nat.sub_eq_zero_of_le hroom, List.drop_zero]

theorem Took.trans (h : b.Took b' l) (h' : b'.Took b'' m) : b.Took b'' (l ++ m) := by
  refine ⟨?_, ?_, h'.capacity.trans h.capacity, h'.listeners.trans h.listeners⟩
  · rw [h'.kept, h.kept, h.capacity, rtake_rtake_append, List.append_assoc]
  · rw [h'.total, h.total, List.length_append, Nat.add_assoc]

theorem Took.room (h : b.Took b' l) : b'.kept.length ≤ b'.capacity := by
  rw [h.kept, h.capacity, List.rtake, List.length_drop]
  omega

theorem took_publish (hlisten : b.listeners.isEmpty = false) (hroom : b.kept.length ≤ b.capacity)
    (events : List Event) :
    b.Took (b.publish sender events) (events.map fun event => ⟨sender, event⟩) := by
  rw [publish, hlisten, if_neg Bool.false_ne_true]
  induction events using List.reverseRecOn with
  | nil => exact .refl hroom
  | append_singleton events event ih =>
    rw [List.foldl_append, List.map_append]
    exact ih.trans ⟨rfl, rfl, rfl, rfl⟩

/-- With a listener, a bus takes all that is published. -/
theorem took_effects (hlisten : b.listeners.isEmpty = false) (hroom : b.kept.length ≤ b.capacity)
    (effects : List Effect) :
    b.Took (effects.foldl Service.publish b) (effects.flatMap Effect.onBus) := by
  induction effects using List.reverseRecOn with
  | nil => exact .refl hroom
  | append_singleton effects effect ih =>
    rw [List.foldl_append, List.flatMap_append, List.flatMap_singleton]
    refine ih.trans ?_
    have hlisten' := ih.listeners ▸ hlisten
    cases effect with
    | publish sender events => exact took_publish hlisten' ih.room events
    | call _ _ | done _ _ | swept _ => exact .refl ih.room

end Bus

/-! ### Batches and writes -/

/-- The batch for a sender that an effect publishes. -/
def Effect.batch? (sender : String) : Effect → Option (List Event)
  | .publish s events => if s = sender then some events else none
  | _ => none

/-- The events of a sender on a bus are those of the batches for it. -/
theorem Effect.filter_onBus (sender : String) (effects : List Effect) :
    ((effects.flatMap onBus).filter fun x => x.senderId = sender) =
      (effects.filterMap (batch? sender)).flatMap fun events =>
        events.map fun event => ⟨sender, event⟩ := by
  induction effects with
  | nil => rfl
  | cons effect effects ih =>
    rw [List.flatMap_cons, List.filter_append, ih]
    cases effect with
    | call _ _ | done _ _ | swept _ => rfl
    | publish s events =>
      by_cases hs : s = sender
      · subst hs
        have hall : ((events.map fun event => (⟨s, event⟩ : TrackerEvent)).filter fun x =>
            x.senderId = s) = events.map fun event => ⟨s, event⟩ :=
          List.filter_eq_self.2 (by simp)
        have hbatch : (publish s events).batch? s = some events := if_pos rfl
        rw [onBus, hall, List.filterMap_cons_some hbatch, List.flatMap_cons]
      · have hnone : ((events.map fun event => (⟨s, event⟩ : TrackerEvent)).filter fun x =>
            x.senderId = sender) = [] :=
          List.filter_eq_nil_iff.2 (by simp [hs])
        have hbatch : (publish s events).batch? sender = none := if_neg hs
        rw [onBus, hnone, List.filterMap_cons_none hbatch, List.nil_append]

/-- Whether a request is an insert or an update. -/
def Call.isWrite : Call → Bool
  | .fetch _ => false
  | .insert _ => true
  | .update _ => true

/-- The write for a sender that an effect requests, with the id of the task. -/
def Effect.write? (sender : String) : Effect → Option (Nat × Call)
  | .call id c => if c.isWrite = true ∧ c.senderId = sender then some (id, c) else none
  | _ => none

/-- A save that has been sent. -/
structure Sending where
  /-- The actions before its beginning. -/
  before : List Action
  id : Nat
  /-- The record as the caller has given it. -/
  record : Record
  /-- The actions before it is sent. -/
  past : List Action

namespace Sending

variable (e : Engine) (s : Sending)

/-- The record as it is stored. -/
def stored : Record := s.record.anonymize e.anonymize

/-- The write of a save: an insert of all its events, or an update with those that are later than
the cursor, in their order. -/
def write : Call :=
  let cache := (e.after s.past).cache
  let sender := s.record.senderId
  if cache.contains .normal sender then
    .update (e.writeRequest sender ((s.stored e).withEvents ((s.stored e).events.filter fun event =>
      (cache.cursor sender).lastTimestamp < event.timestamp)))
  else .insert (e.writeRequest sender (s.stored e))

theorem isWrite_write : (s.write e).isWrite = true := by
  simp only [write]
  split <;> rfl

theorem senderId_write : (s.write e).senderId = s.record.senderId := by
  simp only [write]
  split <;> rfl

/-- What makes a save one that has been sent in a run: it began under an id that was free, it has
waited for the lock ever since, and in one step it is published and its write requested. -/
structure Made (sender : String) (actions : List Action) : Prop where
  sender_eq : s.record.senderId = sender
  begun : s.before ++ [.begin s.id (.save s.record)] <+: s.past
  new : (e.after s.before).task? s.id = none
  waited : e.stepsBy s.id s.past = [⟨s.before, .begin s.id (.save s.record)⟩]
  sent : s.past ++ [.enter s.id] <+: actions
  seen : e.effects ⟨s.past, .enter s.id⟩ =
    [.publish sender (s.stored e).events, .call s.id (s.write e)]

end Sending

namespace Engine

section

variable (e : Engine) (sender : String)

/-- The batches that are published for a sender. -/
def published (actions : List Action) : List (List Event) :=
  (e.run {} actions).2.filterMap (Effect.batch? sender)

/-- The writes that are requested for a sender, with the ids of the tasks. -/
def requested (actions : List Action) : List (Nat × Call) :=
  (e.run {} actions).2.filterMap (Effect.write? sender)

/-- The save of a sender that is sent at a moment. -/
def sending? (m : Moment) : Option Sending :=
  match m.action, e.actor? m with
  | .enter _, some t =>
    match e.stepsBy t.id m.past with
    | [⟨before, .begin id (.save r)⟩] =>
      if r.senderId = sender then some ⟨before, id, r, m.past⟩ else none
    | _ => none
  | _, _ => none

/-- The saves of a sender that have been sent. -/
def sendings (actions : List Action) : List Sending :=
  (moments actions).filterMap (e.sending? sender)

end

variable {e : Engine} {sender : String} {l actions : List Action} {m m' : Moment} {t : Task}
  {id : Nat} {s s' : Sending}

/-! ### From its beginning on -/

/-- What an action is to the steps of an id: a new beginning, one step more, or nothing. -/
theorem stepsBy_cases (id : Nat) (l : List Action) (a : Action) :
    (e.stepsBy id (l ++ [a]) = [⟨l, a⟩] ∧ (e.after l).task? id = none) ∨
    ((∃ t, (e.after l).actor? a = some t ∧ t.id = id) ∧
      e.stepsBy id (l ++ [a]) = e.stepsBy id l ++ [⟨l, a⟩]) ∨
    ((∀ t, (e.after l).actor? a = some t → t.id ≠ id) ∧
      e.stepsBy id (l ++ [a]) = e.stepsBy id l) := by
  by_cases hbegin : ∃ op, a = .begin id op ∧ (e.after l).task? id = none
  · obtain ⟨op, rfl, hid⟩ := hbegin
    exact .inl ⟨stepsBy_begin hid, hid⟩
  · by_cases hactor : ∃ t, (e.after l).actor? a = some t ∧ t.id = id
    · obtain ⟨t, ht, rfl⟩ := hactor
      exact .inr (.inl ⟨⟨t, ht, rfl⟩, stepsBy_of_actor ht⟩)
    · have hother : ∀ t, (e.after l).actor? a = some t → t.id ≠ id :=
        fun t ht hid => hactor ⟨t, ht, hid⟩
      have hold : ∀ op, a = .begin id op → (e.after l).task? id ≠ none :=
        fun op ha hid => hbegin ⟨op, ha, hid⟩
      exact .inr (.inr ⟨hother, stepsBy_of_other hother hold⟩)

/-- The steps of a task are moments of the run, and it begins under an id that is free. -/
theorem mem_stepsBy (hm : m ∈ e.stepsBy id l) : m ∈ moments l ∧
    ∀ op, m.action = .begin id op → (e.after m.past).task? id = none := by
  induction l using List.reverseRecOn with
  | nil => cases hm
  | append_singleton l a ih =>
    rw [moments_append, List.mem_append, List.mem_singleton]
    have hcases := stepsBy_cases (e := e) id l a
    rcases hcases with ⟨hsteps, hid⟩ | ⟨⟨t, hactor, -⟩, hsteps⟩ | ⟨-, hsteps⟩
    · rw [hsteps, List.mem_singleton] at hm
      subst hm
      exact ⟨.inr rfl, fun _ _ => hid⟩
    · rw [hsteps, List.mem_append, List.mem_singleton] at hm
      rcases hm with hm | rfl
      · exact ⟨.inl (ih hm).1, (ih hm).2⟩
      · -- Whoever begins is not a task yet, so that the step of a task is no beginning.
        refine ⟨.inr rfl, ?_⟩
        rintro op rfl
        cases hactor
    · rw [hsteps] at hm
      exact ⟨.inl (ih hm).1, (ih hm).2⟩

/-- A step of a task is among the steps of its id until there is another beginning. -/
theorem mem_stepsBy_or_before (hm : m ∈ moments l) (hactor : e.actor? m = some t) :
    m ∈ e.stepsBy t.id l ∨ ∀ m' ∈ e.stepsBy t.id l, m.past.length < m'.past.length := by
  induction l using List.reverseRecOn with
  | nil => cases hm
  | append_singleton l a ih =>
    rw [moments_append, List.mem_append, List.mem_singleton] at hm
    rcases hm with hm | rfl
    · have hlt : m.past.length < l.length := length_past_lt hm
      rcases stepsBy_cases (e := e) t.id l a with ⟨hsteps, -⟩ | ⟨-, hsteps⟩ | ⟨-, hsteps⟩
      · rw [hsteps, List.forall_mem_singleton]
        exact .inr hlt
      · rw [hsteps, List.mem_append, List.forall_mem_append, List.forall_mem_singleton]
        exact (ih hm).imp .inl fun hlater => ⟨hlater, hlt⟩
      · rw [hsteps]
        exact ih hm
    · rw [stepsBy_of_actor hactor]
      exact .inl (List.mem_append_right _ (List.mem_singleton.2 rfl))

/-- A task that waits for the lock has done nothing since it began. -/
theorem stepsBy_of_queued (ht : t ∈ (e.after l).tasks) (hq : t.stage = .queued) :
    ∃ before op, op.anonymize e.anonymize = t.operation ∧
      e.stepsBy t.id l = [⟨before, .begin t.id op⟩] := by
  obtain ⟨op, hop, hactions⟩ := (underway_after l ht).actions
  have hqueued : t.isQueued = true := by rw [Task.isQueued, hq]
  rw [hqueued, if_pos rfl, List.map_eq_singleton_iff] at hactions
  obtain ⟨⟨before, a⟩, hsteps, rfl⟩ := hactions
  exact ⟨before, op, hop, hsteps⟩

/-! ### A save is sent -/

theorem sending?_eq_some : e.sending? sender m = some s ↔
    (∃ t, (e.after s.past).actor? (.enter s.id) = some t) ∧ m = ⟨s.past, .enter s.id⟩ ∧
      s.record.senderId = sender ∧
      e.stepsBy s.id s.past = [⟨s.before, .begin s.id (.save s.record)⟩] := by
  constructor
  · intro h
    obtain ⟨past, a⟩ := m
    rw [sending?] at h
    split at h
    · rename_i id t ha hactor
      obtain rfl : a = .enter id := ha
      have hactor : (e.after past).actor? (.enter id) = some t := hactor
      obtain ⟨ht, hq, -⟩ := EngineState.actor?_enter.1 hactor
      -- A task in the queue has done nothing but begin.
      obtain ⟨before, op, -, hsteps⟩ := stepsBy_of_queued (EngineState.mem_of_task? ht) hq
      obtain rfl := EngineState.id_of_task? ht
      rw [hsteps] at h
      cases op with
      | retrieve _ => cases h
      | save r =>
        dsimp only at h
        split at h
        · rename_i hsender
          cases h
          exact ⟨⟨t, hactor⟩, rfl, hsender, hsteps⟩
        · cases h
    · cases h
  · rintro ⟨⟨t, hactor⟩, rfl, hsender, hsteps⟩
    have hid := EngineState.id_of_task? (EngineState.actor?_enter.1 hactor).1
    have hactor : e.actor? ⟨s.past, .enter s.id⟩ = some t := hactor
    simp only [sending?, hactor, hid, hsteps, hsender, if_true]

/-- The task that is sent is the save that was begun. -/
theorem operation_of_sending (hactor : (e.after s.past).actor? (.enter s.id) = some t)
    (hsteps : e.stepsBy s.id s.past = [⟨s.before, .begin s.id (.save s.record)⟩]) :
    t.id = s.id ∧ t.operation = .save (s.stored e) := by
  obtain ⟨ht, hq, -⟩ := EngineState.actor?_enter.1 hactor
  have hid := EngineState.id_of_task? ht
  obtain ⟨before, op, hop, hsteps'⟩ := stepsBy_of_queued (EngineState.mem_of_task? ht) hq
  rw [hid, hsteps] at hsteps'
  cases hsteps'
  exact ⟨hid, hop.symm⟩

/-- **A save is published and written in one step.** -/
theorem effects_of_sending (hlisten : e.broadcasts = true) (htest : e.isTest sender = false)
    (h : e.sending? sender m = some s) :
    e.effects m = [.publish sender (s.stored e).events, .call s.id (s.write e)] := by
  obtain ⟨⟨t, hactor⟩, rfl, hsender, hsteps⟩ := sending?_eq_some.1 h
  obtain ⟨hid, hop⟩ := operation_of_sending hactor hsteps
  have hts : t.sender = sender := (sender_of_save hop).trans hsender
  have hwrite : e.request ((e.after s.past).cache.entry t.sender) t.operation = s.write e := by
    rw [hop, sender_of_save hop, ← writeCall_eq]
    rfl
  have hannounce : e.announce t.operation = [.publish sender (s.stored e).events] := by
    rw [hop, announce, if_pos hlisten, ← hsender]
    rfl
  rw [effects, step_called hactor (hts ▸ htest), hwrite, hannounce, hid]
  rfl

/-- **Nothing else is published or written** for a sender. -/
theorem silent_of_none (h : e.sending? sender m = none) {effect : Effect}
    (heffect : effect ∈ e.effects m) :
    effect.batch? sender = none ∧ effect.write? sender = none := by
  obtain ⟨past, a⟩ := m
  have htransition := transition (e := e) (e.after past) a
  rw [effects] at heffect
  dsimp only at heffect
  generalize (e.step (e.after past) a).1 = s', (e.step (e.after past) a).2 = effects
    at htransition heffect
  cases htransition with
  | ignored | queued => cases heffect
  | swept now =>
    obtain rfl := List.mem_singleton.1 heffect
    exact ⟨rfl, rfl⟩
  -- An outcome is neither a batch nor a write.
  | left _ _ hleft =>
    rw [hleft.effects_eq] at heffect
    obtain ⟨outcome, rfl⟩ := mem_leave heffect
    exact ⟨rfl, rfl⟩
  | @called id t hactor =>
    obtain ⟨ht, hq, -⟩ := EngineState.actor?_enter.1 hactor
    obtain rfl := EngineState.id_of_task? ht
    obtain ⟨before, op, hop, hsteps⟩ := stepsBy_of_queued (EngineState.mem_of_task? ht) hq
    rw [← hop, List.mem_append, List.mem_singleton] at heffect
    cases op with
    | retrieve _ =>
      rcases heffect with heffect | rfl
      · cases heffect
      · exact ⟨rfl, rfl⟩
    | save r =>
      -- A save of this sender would be sent at this moment.
      have hne : r.senderId ≠ sender := by
        intro hsender
        have hsome : e.sending? sender ⟨past, .enter t.id⟩ = some ⟨before, t.id, r, past⟩ :=
          sending?_eq_some.2 ⟨⟨t, hactor⟩, rfl, hsender, hsteps⟩
        rw [hsome] at h
        cases h
      rcases heffect with heffect | rfl
      · obtain ⟨_, ⟨⟩, rfl⟩ := mem_announce heffect
        exact ⟨if_neg hne, rfl⟩
      · refine ⟨rfl, if_neg fun hwrite => hne ?_⟩
        rw [← hwrite.2, senderId_request]
        rfl

theorem moment_of_stepsBy (hsteps : e.stepsBy id l = [m]) : m ∈ moments l :=
  (mem_stepsBy (hsteps ▸ List.mem_singleton.2 rfl)).1

theorem made_of_sending? (hlisten : e.broadcasts = true) (htest : e.isTest sender = false)
    (hm : m ∈ moments actions) (h : e.sending? sender m = some s) : s.Made e sender actions := by
  have hseen := effects_of_sending hlisten htest h
  obtain ⟨-, rfl, hsender, hsteps⟩ := sending?_eq_some.1 h
  have hfirst : ⟨s.before, .begin s.id (.save s.record)⟩ ∈ e.stepsBy s.id s.past := by
    rw [hsteps]
    exact List.mem_singleton.2 rfl
  obtain ⟨hbegin, hnew⟩ := mem_stepsBy hfirst
  have hbegun := prefix_of_mem_moments hbegin
  have hsent := prefix_of_mem_moments hm
  exact ⟨hsender, hbegun, hnew _ rfl, hsteps, hsent, hseen⟩

/-- **No save is sent twice.** -/
theorem before_ne (hm : m ∈ moments m'.past) (h : e.sending? sender m = some s)
    (h' : e.sending? sender m' = some s') : s.before ≠ s'.before := by
  intro hbefore
  obtain ⟨⟨t, hactor⟩, rfl, -, hsteps⟩ := sending?_eq_some.1 h
  obtain ⟨-, rfl, -, hsteps'⟩ := sending?_eq_some.1 h'
  have hbegin := moment_of_stepsBy hsteps
  have hbegin' := moment_of_stepsBy hsteps'
  -- What has begun at one place has one id.
  have hin : s.before ++ [.begin s.id (.save s.record)] <+: s'.past :=
    (prefix_of_mem_moments hbegin).trans
      ((List.prefix_append _ _).trans (prefix_of_mem_moments hm))
  have hsame : s.before ++ [.begin s.id (.save s.record)] =
      s'.before ++ [.begin s'.id (.save s'.record)] :=
    (List.prefix_of_prefix_length_le hin (prefix_of_mem_moments hbegin')
      (by simp [hbefore])).eq_of_length (by simp [hbefore])
  have hid : s.id = s'.id := by
    obtain ⟨-, hlast⟩ := List.append_inj' hsame rfl
    exact (Action.begin.inj (List.singleton_inj.1 hlast)).1
  -- The first one has been sent since, and the second one would still wait for its lock.
  have htid : t.id = s.id := EngineState.id_of_task? (EngineState.actor?_enter.1 hactor).1
  have hsince := mem_stepsBy_or_before hm hactor
  rw [htid, hid, hsteps', List.mem_singleton, List.forall_mem_singleton] at hsince
  rcases hsince with heq | hlt
  · exact nomatch (Moment.mk.inj heq).2
  · have hlt' : s.before.length < s.past.length := length_past_lt hbegin
    rw [hbefore] at hlt'
    exact absurd hlt' (Nat.lt_asymm hlt)

theorem nodup_sendings (actions : List Action) :
    ((e.sendings sender actions).map (·.before)).Nodup := by
  rw [List.Nodup, List.pairwise_map, sendings, List.pairwise_filterMap]
  exact (pairwise_moments actions).imp fun hm s h s' h' => before_ne hm h h'

/-! ### Two views of one list -/

/-- What is seen of each save that is sent is what is seen of all. -/
theorem filterMap_effects {α : Type} {view : Effect → Option α} {f : Sending → α}
    (h : ∀ m, (e.effects m).filterMap view = ((e.sending? sender m).map f).toList)
    (actions : List Action) :
    (e.run {} actions).2.filterMap view = (e.sendings sender actions).map f := by
  rw [run_effects, List.filterMap_flatMap, sendings, List.map_filterMap,
    List.filterMap_eq_flatMap_toList]
  exact List.flatMap_congr fun m _ => h m

theorem published_eq (hlisten : e.broadcasts = true) (htest : e.isTest sender = false)
    (actions : List Action) : e.published sender actions =
      (e.sendings sender actions).map fun s => (s.stored e).events := by
  refine filterMap_effects (fun m => ?_) actions
  cases h : e.sending? sender m with
  | some s =>
    have hpublish : (Effect.publish sender (s.stored e).events).batch? sender =
        some (s.stored e).events := if_pos rfl
    rw [effects_of_sending hlisten htest h, List.filterMap_cons_some hpublish]
    rfl
  | none => exact List.filterMap_eq_nil_iff.2 fun effect he => (silent_of_none h he).1

theorem requested_eq (hlisten : e.broadcasts = true) (htest : e.isTest sender = false)
    (actions : List Action) : e.requested sender actions =
      (e.sendings sender actions).map fun s => (s.id, s.write e) := by
  refine filterMap_effects (fun m => ?_) actions
  cases h : e.sending? sender m with
  | some s =>
    obtain ⟨-, -, hsender, -⟩ := sending?_eq_some.1 h
    have hcall : (Effect.call s.id (s.write e)).write? sender = some (s.id, s.write e) :=
      if_pos ⟨s.isWrite_write e, (s.senderId_write e).trans hsender⟩
    rw [effects_of_sending hlisten htest h, List.filterMap_cons_none rfl,
      List.filterMap_cons_some hcall]
    rfl
  | none => exact List.filterMap_eq_nil_iff.2 fun effect he => (silent_of_none h he).2

/-- **Batches and writes go in step.**  In every run of an engine with a listener, the batches that
are published for a sender that is no test sender, and the writes that are requested for it, are
those of the same saves in the same order: the k-th batch has all events that the k-th save stores,
and the k-th write inserts them, or updates with those of them after the cursor.  No save is among
them twice, and each is published and written in one step, at which it has the lock for which it has
waited from its beginning on.  A bus that somebody listens to takes the events in this order. -/
theorem in_step (hlisten : e.broadcasts = true) (htest : e.isTest sender = false)
    (actions : List Action) :
    let saves := e.sendings sender actions
    e.published sender actions = saves.map (fun s => (s.stored e).events) ∧
    e.requested sender actions = saves.map (fun s => (s.id, s.write e)) ∧
    (saves.map (·.before)).Nodup ∧
    (∀ s ∈ saves, s.Made e sender actions) ∧
    ∀ bus : Bus, bus.listeners.isEmpty = false → bus.kept.length ≤ bus.capacity →
      ∃ sent, bus.Took ((e.run {} actions).2.foldl Service.publish bus) sent ∧
        (sent.filter fun x => x.senderId = sender) =
          saves.flatMap fun s => (s.stored e).events.map fun event => ⟨sender, event⟩ := by
  intro saves
  have hpublished := published_eq hlisten htest actions
  refine ⟨hpublished, requested_eq hlisten htest actions, nodup_sendings actions,
    fun s hs => ?_, fun bus hheard hroom => ?_⟩
  · obtain ⟨m, hm, h⟩ := List.mem_filterMap.1 hs
    exact made_of_sending? hlisten htest hm h
  · refine ⟨_, bus.took_effects hheard hroom _, ?_⟩
    rw [Effect.filter_onBus, ← published, hpublished, List.flatMap_map]

/-! ### A save that is dropped after it has been sent -/

/-- Two saves under one id, the first one of which is dropped before its reply comes. -/
def savesUnderOneId : List Action :=
  [.begin 0 (.save (conversation [1])), .enter 0, .cancel 0,
    .begin 0 (.save (conversation [1, 2])), .enter 0, .reply 0 (.written (.ok ⟨some 1, some 2⟩))]

/-- Both of them are on the bus and at the remote store, in one order. -/
theorem in_step_savesUnderOneId :
    heardEngine.published "ann" savesUnderOneId =
      [(conversation [1]).events, (conversation [1, 2]).events] ∧
    heardEngine.requested "ann" savesUnderOneId =
      [(0, .insert (heardEngine.writeRequest "ann" (conversation [1]))),
        (0, .insert (heardEngine.writeRequest "ann" (conversation [1, 2])))] ∧
    ((heardEngine.sendings "ann" savesUnderOneId).map (·.before)).Nodup := by
  have hlisten : heardEngine.broadcasts = true := rfl
  have htest : heardEngine.isTest "ann" = false := rfl
  obtain ⟨hpublished, hrequested, honce, -⟩ := in_step hlisten htest savesUnderOneId
  exact ⟨hpublished, hrequested, honce⟩

end Engine

end DialogueStore
