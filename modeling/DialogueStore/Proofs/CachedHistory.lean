/-
What the cached events of a conversation are made of.

Events come into the cache with saves and with snapshots, each of them a
`Contribution`.  A save replaces what was cached, and so does a snapshot of as many
events as were asked for; any other snapshot is appended.  Whatever else happens,
the cached events are those of the last contribution that replaced what was before
it, followed by those of all later ones (`Composes`).

* `Engine.composes_after` — the cached events of a sender after any run,
* `Engine.events_of_fruitless` — what brings no events leaves the cached ones as they are,
* `Engine.cached_history` — both, with what callers get to see of it.
-/
import DialogueStore.Proofs.EmptyFetch

namespace DialogueStore

/-- Events that come into the cache. -/
inductive Contribution
  /-- A save stores them. -/
  | saved (events : List Event)
  /-- A snapshot brings them. -/
  | fetched (events : List Event)

namespace Contribution

def events : Contribution → List Event
  | .saved events => events
  | .fetched events => events

/-- Whether nothing is kept of what was cached before. -/
def isBase (maxEvents : Nat) : Contribution → Bool
  | .saved _ => true
  | .fetched events => events.length = maxEvents

end Contribution

/-- The events that come of contributions, in the order in which they came: those of the last base,
or of the very first contribution if there is no base, and those of all that came later. -/
inductive Composes (maxEvents : Nat) : List Contribution → Option (List Event) → Prop
  | nothing : Composes maxEvents [] none
  | based (before : List Contribution) (base : Contribution) (later : List Contribution)
      (hbase : base.isBase maxEvents = true ∨ before = [])
      (hlater : ∀ c ∈ later, c.isBase maxEvents = false) :
      Composes maxEvents (before ++ base :: later)
        (some (base.events ++ later.flatMap Contribution.events))

namespace Contribution

variable {maxEvents : Nat} {cs : List Contribution} {cached : Option (List Event)}

/-- The cached events with a contribution. -/
def onto (maxEvents : Nat) (cached : Option (List Event)) (c : Contribution) : List Event :=
  if c.isBase maxEvents then c.events else cached.getD [] ++ c.events

theorem onto_fetched (maxEvents : Nat) (cached : Option (List Event)) (events : List Event) :
    onto maxEvents cached (.fetched events) =
      if events.length = maxEvents then events else cached.getD [] ++ events := by
  simp [onto, isBase, Contribution.events]

/-- A base takes the place of the one before, and any other contribution comes at the end. -/
theorem composes_append (h : Composes maxEvents cs cached) (c : Contribution) :
    Composes maxEvents (cs ++ [c]) (some (c.onto maxEvents cached)) := by
  have hnew : ∀ before, c.isBase maxEvents = true ∨ before = [] →
      Composes maxEvents (before ++ [c]) (some c.events) := by
    intro before hbase
    have hcomposes := Composes.based before c [] hbase nofun
    rwa [List.flatMap_nil, List.append_nil] at hcomposes
  rw [onto]
  cases hc : c.isBase maxEvents with
  | true =>
    rw [if_pos rfl]
    exact hnew cs (.inl hc)
  | false =>
    rw [if_neg (by simp)]
    cases h with
    | nothing => exact hnew [] (.inr rfl)
    | based before base later hbase hlater =>
      have hcomposes := Composes.based before base (later ++ [c]) hbase (by
        rw [List.forall_mem_append, List.forall_mem_singleton]
        exact ⟨hlater, hc⟩)
      rw [List.flatMap_append, List.flatMap_singleton, ← List.append_assoc] at hcomposes
      rwa [List.append_assoc, List.cons_append]

end Contribution

namespace Engine

variable (e : Engine)

/-- What a reply to one of the sender's tasks brings.  A save stores its events whatever the reply
is, and a fetch brings those of its snapshot if there is one. -/
def contribution? (sender : String) (m : Moment) : Option Contribution :=
  match m.action, e.actor? m with
  | .reply _ (.written _), some ⟨_, .save r, _, _⟩ =>
    if r.senderId = sender then some (.saved r.events) else none
  | .reply _ (.fetched (.ok (some snapshot))), some t =>
    if t.sender = sender then some (.fetched snapshot.tracker.events) else none
  | _, _ => none

/-- What has come into the cache for a sender since it was last evicted. -/
def contributions (sender : String) (actions : List Action) : List Contribution :=
  (e.sinceEviction sender actions).filterMap (e.contribution? sender)

/-- A moment at which a sender neither saves anything nor gets an event: no task of it is answered,
or it is a retrieve that fails, or that finds nothing, or whose snapshot is empty. -/
def Fruitless (sender : String) (m : Moment) : Prop :=
  ∀ t, e.actor? m = some t → t.sender = sender →
    match m.action with
    | .reply _ (.written _) => False
    | .reply _ (.fetched (.ok (some snapshot))) => snapshot.tracker.events = []
    | _ => True

variable {e} {sender : String} {l past : List Action} {a : Action} {t : Task} {id : Nat}

theorem contributions_append (sender : String) (l : List Action) (a : Action) :
    e.contributions sender (l ++ [a]) =
      if (e.effects ⟨l, a⟩).any (Effect.evicts sender) then []
      else e.contributions sender l ++ (e.contribution? sender ⟨l, a⟩).toList := by
  rw [contributions, sinceEviction_append, noteEviction]
  split
  · rfl
  · rw [List.filterMap_append, contributions]
    cases h : e.contribution? sender ⟨l, a⟩ <;> simp [h]

/-! ### What a step makes of the cached events -/

theorem contribution?_of_not_reply (ha : ∀ id r, a ≠ .reply id r) :
    e.contribution? sender ⟨l, a⟩ = none := by
  cases a with
  | reply id r => exact absurd rfl (ha id r)
  | begin _ _ | enter _ | cancel _ | sweep _ => rfl

theorem contribution?_of_none (hactor : (e.after l).actor? a = none) :
    e.contribution? sender ⟨l, a⟩ = none := by
  rw [contribution?, actor?, hactor]
  split
  · rename_i h
    cases h
  · rename_i h
    cases h
  · rfl

theorem contribution?_of_sender_ne (hactor : (e.after l).actor? a = some t)
    (hsender : t.sender ≠ sender) : e.contribution? sender ⟨l, a⟩ = none := by
  rw [contribution?, actor?, hactor]
  split
  · rename_i h
    cases h
    exact if_neg hsender
  · rename_i h
    cases h
    exact if_neg hsender
  · rfl

/-- A save contributes what it was asked to store. -/
theorem contribution?_of_save {r : Record} {reply : WriteReply}
    (hactor : (e.after l).actor? (.reply id (.written reply)) = some t)
    (hop : t.operation = .save r) (hsender : t.sender = sender) :
    e.contribution? sender ⟨l, .reply id (.written reply)⟩ = some (.saved r.events) := by
  obtain ⟨tid, op, handle, stage⟩ := t
  cases hop
  rw [contribution?, actor?, hactor]
  exact if_pos hsender

/-- A retrieve contributes the events of the snapshot that it gets. -/
theorem contribution?_of_retrieve {reply : FetchReply}
    (hactor : (e.after l).actor? (.reply id (.fetched reply)) = some t)
    (hsender : t.sender = sender) : e.contribution? sender ⟨l, .reply id (.fetched reply)⟩ =
      reply.toOption.join.map fun snapshot => .fetched snapshot.tracker.events := by
  rw [contribution?, actor?, hactor]
  rcases reply with _ | _ | snapshot
  · rfl
  · rfl
  · exact if_pos hsender

/-- A reply brings its contribution, and without one it changes nothing. -/
theorem events_conclude {r : Reply} (hactor : (e.after l).actor? (.reply id r) = some t)
    (hsender : t.sender = sender) (x : Entry) :
    (e.conclude x t.operation r).1.normal.map (·.events) =
      ((e.contribution? sender ⟨l, .reply id r⟩).map
        (Contribution.onto e.config.maxEvents.toNat (x.normal.map (·.events)))).or
          (x.normal.map (·.events)) := by
  cases r with
  | written reply =>
    obtain ⟨record, hop⟩ := save_of_written hactor
    rw [contribution?_of_save hactor hop hsender, hop]
    cases reply <;> rfl
  | fetched reply =>
    rw [contribution?_of_retrieve hactor hsender, (retrieve_of_fetched hactor).1]
    rcases reply with _ | _ | snapshot
    · rfl
    · rfl
    · have hmerge := Record.events_merge t.sender x.normal snapshot.tracker
        e.config.maxEvents.toNat
      rw [← Contribution.onto_fetched] at hmerge
      exact congrArg some hmerge

/-- **What a step makes of the cached events.**  Nothing is left of them if the sender is evicted;
otherwise they are what the step contributes makes of them. -/
theorem events_step (htest : e.isTest sender = false) (l : List Action) (a : Action) :
    ((e.after (l ++ [a])).cache.get? .normal sender).map (·.events) =
      if (e.effects ⟨l, a⟩).any (Effect.evicts sender) then none
      else ((e.contribution? sender ⟨l, a⟩).map (Contribution.onto e.config.maxEvents.toNat
          (((e.after l).cache.get? .normal sender).map (·.events)))).or
        (((e.after l).cache.get? .normal sender).map (·.events)) := by
  rw [after_append, Cache.get?_eq, Cache.get?_eq, Entry.record, Entry.record]
  -- Only a reply can contribute; any other step keeps the record or evicts it.
  by_cases ha : ∃ id r, a = .reply id r
  · obtain ⟨id, r, rfl⟩ := ha
    rw [not_evicts (by simp), if_neg (by simp)]
    cases hactor : (e.after l).actor? (.reply id r) with
    | none =>
      rw [step_of_actor_none hactor (by simp) (by simp), contribution?_of_none hactor]
      rfl
    | some t =>
      rw [entry_step_reply hactor]
      split
      · rename_i hsender
        exact events_conclude hactor hsender _
      · rename_i hsender
        rw [contribution?_of_sender_ne hactor hsender]
        rfl
  · have ha : ∀ id r, a ≠ .reply id r := by simpa using ha
    rw [entry_step htest l ha, contribution?_of_not_reply ha]
    split <;> rfl

/-- The cached events of a sender are composed of what has come in since it was last evicted. -/
theorem composes_after (htest : e.isTest sender = false) (actions : List Action) :
    Composes e.config.maxEvents.toNat (e.contributions sender actions)
      (((e.after actions).cache.get? .normal sender).map (·.events)) := by
  induction actions using List.reverseRecOn with
  | nil => exact .nothing
  | append_singleton l a ih =>
    rw [events_step htest, contributions_append]
    split
    · exact .nothing
    · cases hc : e.contribution? sender ⟨l, a⟩ with
      | none =>
        rw [Option.toList_none, List.append_nil]
        exact ih
      | some c => exact Contribution.composes_append ih c

/-! ### What brings no events -/

/-- All that a fruitless moment can bring is an empty snapshot. -/
theorem contribution?_of_fruitless (hfruitless : e.Fruitless sender ⟨past, a⟩) :
    e.contribution? sender ⟨past, a⟩ = none ∨
      e.contribution? sender ⟨past, a⟩ = some (.fetched []) := by
  cases hactor : (e.after past).actor? a with
  | none => exact .inl (contribution?_of_none hactor)
  | some t =>
    by_cases hsender : t.sender = sender
    · have hnothing := hfruitless t hactor hsender
      cases a with
      | begin _ _ | enter _ | cancel _ | sweep _ => exact .inl rfl
      | reply id r =>
        rcases r with (cause | _ | snapshot) | reply
        · exact .inl (contribution?_of_retrieve hactor hsender)
        · exact .inl (contribution?_of_retrieve hactor hsender)
        · have hempty : snapshot.tracker.events = [] := hnothing
          have hsome := contribution?_of_retrieve hactor hsender
          exact .inr (hsome.trans (congrArg (some ∘ Contribution.fetched) hempty))
        · exact hnothing.elim
    · exact .inl (contribution?_of_sender_ne hactor hsender)

/-- Without a sweep that evicts the sender, a fruitless moment keeps the cached events. -/
theorem events_of_fruitless (htest : e.isTest sender = false) (hmax : e.config.maxEvents ≠ 0)
    (hfruitless : e.Fruitless sender ⟨past, a⟩)
    (hkept : (e.effects ⟨past, a⟩).any (Effect.evicts sender) = false) :
    (∀ r, (e.after past).cache.get? .normal sender = some r →
      ∃ r', (e.after (past ++ [a])).cache.get? .normal sender = some r' ∧
        r'.events = r.events) ∧
    ((e.after past).cache.get? .normal sender = none →
      ∀ r', (e.after (past ++ [a])).cache.get? .normal sender = some r' → r'.events = []) := by
  have hstep := events_step htest past a
  rw [hkept, if_neg (by simp)] at hstep
  -- An empty snapshot is no base, as at least one event may be asked for.
  have honto : ∀ cached, Contribution.onto e.config.maxEvents.toNat cached (.fetched []) =
      cached.getD [] := by
    intro cached
    have hzero : ¬ ([] : List Event).length = e.config.maxEvents.toNat :=
      fun hzero => hmax (UInt64.toNat_inj.1 hzero.symm)
    rw [Contribution.onto_fetched, if_neg hzero, List.append_nil]
  refine ⟨?_, ?_⟩
  · intro r hr
    have hevents : ((e.after (past ++ [a])).cache.get? .normal sender).map (·.events) =
        some r.events := by
      rw [hstep, hr]
      rcases contribution?_of_fruitless hfruitless with h | h
      · rw [h]
        rfl
      · rw [h, Option.map_some, honto]
        rfl
    exact Option.map_eq_some_iff.1 hevents
  · intro hnone r' hr'
    rw [hr', hnone, Option.map_none, Option.map_some] at hstep
    rcases contribution?_of_fruitless hfruitless with h | h
    · rw [h] at hstep
      cases hstep
    · rw [h, Option.map_some, honto] at hstep
      exact Option.some.inj hstep

/-- Any number of fruitless moments keeps the cached events. -/
theorem events_of_all_fruitless (htest : e.isTest sender = false) (hmax : e.config.maxEvents ≠ 0)
    {r : Record} (hr : (e.after past).cache.get? .normal sender = some r) {later : List Action}
    (hlater : ∀ m ∈ momentsFrom past later,
      e.Fruitless sender m ∧ (e.effects m).any (Effect.evicts sender) = false) :
    ∃ r', (e.after (past ++ later)).cache.get? .normal sender = some r' ∧
      r'.events = r.events := by
  induction later using List.reverseRecOn with
  | nil =>
    rw [List.append_nil]
    exact ⟨r, hr, rfl⟩
  | append_singleton l a ih =>
    rw [momentsFrom_append, List.forall_mem_append, List.forall_mem_singleton] at hlater
    obtain ⟨hbefore, hfruitless, hkept⟩ := hlater
    obtain ⟨r', hr', hsame⟩ := ih hbefore
    obtain ⟨r'', hr'', hsame'⟩ := (events_of_fruitless htest hmax hfruitless hkept).1 r' hr'
    rw [← List.append_assoc]
    exact ⟨r'', hr'', hsame'.trans hsame⟩

/-! ### What callers see of it -/

/-- A task whose sender is no test sender is done with a reply. -/
theorem reply_of_done (htest : e.isTest t.sender = false) (hactor : e.actor? ⟨past, a⟩ = some t)
    {outcome : Outcome} (hdone : .done id outcome ∈ e.effects ⟨past, a⟩) :
    ∃ i r, a = .reply i r ∧
      .done id outcome ∈ (e.leave ((e.after past).cache.entry t.sender) t (.reply i r)).2 := by
  have hactor : (e.after past).actor? a = some t := hactor
  have hdone : .done id outcome ∈ (e.step (e.after past) a).2 := hdone
  cases a with
  | begin _ _ | sweep _ => cases hactor
  | enter i =>
    rw [step_called hactor htest, List.mem_append, List.mem_singleton] at hdone
    rcases hdone with hdone | hdone
    · obtain ⟨r, -, heq⟩ := mem_announce hdone
      cases heq
    · cases hdone
  | cancel i =>
    rw [(step_cancel_left hactor).effects_eq] at hdone
    cases hdone
  | reply i r =>
    rw [(step_reply_left hactor).effects_eq] at hdone
    exact ⟨i, r, rfl, hdone⟩

/-- A retrieve returns what is cached for its sender after it. -/
theorem cached_of_retrieved (htest : e.isTest sender = false)
    (hactor : e.actor? ⟨past, a⟩ = some t) (hsender : t.sender = sender) {r? : Option Record}
    (hdone : .done id (.retrieved r?) ∈ e.effects ⟨past, a⟩) :
    (e.after (past ++ [a])).cache.get? .normal sender = r? := by
  subst hsender
  obtain ⟨i, r, rfl, hleave⟩ := reply_of_done htest hactor hdone
  rw [after_append, Cache.get?_eq, Entry.record, entry_step_reply hactor, if_pos rfl]
  exact normal_of_retrieved hleave

/-- A save that is done has contributed what it returns. -/
theorem contribution?_of_saved (htest : e.isTest sender = false)
    (hactor : e.actor? ⟨past, a⟩ = some t) (hsender : t.sender = sender) {events : List Event}
    (hdone : .done id (.saved events) ∈ e.effects ⟨past, a⟩) :
    e.contribution? sender ⟨past, a⟩ = some (.saved events) := by
  subst hsender
  obtain ⟨i, r, rfl, hleave⟩ := reply_of_done htest hactor hdone
  obtain ⟨record, hop, rfl⟩ := events_of_saved hleave
  cases r with
  | written reply => exact contribution?_of_save hactor hop rfl
  | fetched reply =>
    -- A save does not get the reply to a fetch.
    have hretrieve := (retrieve_of_fetched hactor).1
    rw [hop] at hretrieve
    cases hretrieve

/-- After a save that is done, its events are cached. -/
theorem cached_of_saved (htest : e.isTest sender = false)
    (hactor : e.actor? ⟨past, a⟩ = some t) (hsender : t.sender = sender) {events : List Event}
    (hdone : .done id (.saved events) ∈ e.effects ⟨past, a⟩) :
    ∃ r, (e.after (past ++ [a])).cache.get? .normal sender = some r ∧ r.events = events := by
  have hstep := events_step htest past a
  have hreply : ∀ now, a ≠ .sweep now := by
    rintro now rfl
    cases hactor
  rw [not_evicts hreply, if_neg (by simp), contribution?_of_saved htest hactor hsender hdone] at hstep
  exact Option.map_eq_some_iff.1 hstep

/-- **Cached history is composed of what was saved and fetched.**  Let a sender be no test sender.
After every run its cached events are those of its last save, or of its last snapshot with as many
events as were asked for, whichever is later, or else of the first snapshot, all since it was last
evicted, and then those of all later snapshots in their order.  A retrieve returns what is cached
after it, and a save contributes what it returns.  If at least one event may be asked for, fetches
that fail or bring nothing, dropped tasks and the tasks of other senders keep the events; so that
retrieves that bring nothing return just what the save before them has returned. -/
theorem cached_history (htest : e.isTest sender = false) :
    (∀ actions, Composes e.config.maxEvents.toNat (e.contributions sender actions)
      (((e.after actions).cache.get? .normal sender).map (·.events))) ∧
    (∀ past a t, e.actor? ⟨past, a⟩ = some t → t.sender = sender →
      (∀ id r?, .done id (.retrieved r?) ∈ e.effects ⟨past, a⟩ →
        (e.after (past ++ [a])).cache.get? .normal sender = r?) ∧
      ∀ id events, .done id (.saved events) ∈ e.effects ⟨past, a⟩ →
        e.contribution? sender ⟨past, a⟩ = some (.saved events)) ∧
    (e.config.maxEvents ≠ 0 → ∀ past a, e.Fruitless sender ⟨past, a⟩ →
      (e.effects ⟨past, a⟩).any (Effect.evicts sender) = false →
      (∀ r, (e.after past).cache.get? .normal sender = some r →
        ∃ r', (e.after (past ++ [a])).cache.get? .normal sender = some r' ∧
          r'.events = r.events) ∧
      ((e.after past).cache.get? .normal sender = none →
        ∀ r', (e.after (past ++ [a])).cache.get? .normal sender = some r' → r'.events = [])) ∧
    (e.config.maxEvents ≠ 0 → ∀ past a t id events, e.actor? ⟨past, a⟩ = some t →
      t.sender = sender → .done id (.saved events) ∈ e.effects ⟨past, a⟩ →
      ∀ later b, (∀ m ∈ momentsFrom (past ++ [a]) (later ++ [b]),
        e.Fruitless sender m ∧ (e.effects m).any (Effect.evicts sender) = false) →
      ∀ u i r?, e.actor? ⟨past ++ [a] ++ later, b⟩ = some u → u.sender = sender →
        .done i (.retrieved r?) ∈ e.effects ⟨past ++ [a] ++ later, b⟩ →
        ∃ r, r? = some r ∧ r.events = events) := by
  refine ⟨composes_after htest, ?_, ?_, ?_⟩
  · intro past a t hactor hsender
    exact ⟨fun _ _ => cached_of_retrieved htest hactor hsender,
      fun _ _ => contribution?_of_saved htest hactor hsender⟩
  · exact fun hmax past a => events_of_fruitless htest hmax
  · intro hmax past a t id events hactor hsender hsaved later b hlater u i r? hu husender hdone
    -- The fruitless steps keep what the save left, and that is what the retrieve gives.
    obtain ⟨r, hr, rfl⟩ := cached_of_saved htest hactor hsender hsaved
    obtain ⟨r', hr', hsame⟩ := events_of_all_fruitless htest hmax hr hlater
    have hcached := cached_of_retrieved htest hu husender hdone
    rw [List.append_assoc, hr'] at hcached
    exact ⟨r', hcached.symm, hsame⟩

/-! ### A save, a snapshot and a retrieve that fails -/

/-- A save whose write fails, a snapshot that continues it, and a fetch that fails. -/
def saveThenRetrieves : List Action :=
  [.begin 0 (.save (conversation [1])), .enter 0, .reply 0 (.written (.error (.timeout 30))),
    .begin 1 (.retrieve "ann"), .enter 1,
    .reply 1 (.fetched (.ok (some ⟨conversation [2], some 1, some 2⟩))),
    .begin 2 (.retrieve "ann"), .enter 2, .reply 2 (.fetched (.error (.timeout 30)))]

theorem composes_saveThenRetrieves : plainEngine.contributions "ann" saveThenRetrieves =
      [.saved (conversation [1]).events, .fetched (conversation [2]).events] ∧
    Composes 100 [.saved (conversation [1]).events, .fetched (conversation [2]).events]
      (some (conversation [1, 2]).events) := by
  have htest : plainEngine.isTest "ann" = false := rfl
  have hcomposes := (cached_history htest).1 saveThenRetrieves
  exact ⟨rfl, hcomposes⟩

end Engine

end DialogueStore
