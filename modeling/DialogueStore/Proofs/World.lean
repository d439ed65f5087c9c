/-
Engines that share one remote store.

A world has any number of engines, and the remote store has a log of events for
each sender.  Requests are taken at any time after they were made, and the
replies arrive at any time after that; meanwhile the other engines go on, and
other programs add to the logs.  `World.step` is the whole of it, one happening
at a time.

* `World.prefix_logs` — logs only grow,
* `World.reached` — an engine in a world is an engine by itself,
* `World.answered_after` — each reply on its way belongs to a task that waits,
* `World.begun_of_dealing` — the store is asked for operations that were begun.

Design notes: `World.dealings` is the history of the remote store, with what each
request found on both sides.  Theorems that need something of the requests say it
of the dealings.  The functions in a world are changed by a plain `if`, which
reduces without comparing what the keys were computed from; so fixed runs can be
evaluated.
-/
import DialogueStore.Proofs.RemoteLog

namespace DialogueStore

/-- A request that the remote store takes: who made it, with which entry and in which operation, and
the log of its sender. -/
structure Dealing (ι : Type) where
  engine : ι
  entry : Entry
  operation : Operation
  log : List Event

/-- The state of a world. -/
structure World (ι : Type) where
  engines : ι → EngineState := fun _ => {}
  logs : String → List Event := fun _ => []
  /-- The answers on their way, by engine and task. -/
  replies : ι → Nat → Option LogReply := fun _ _ => none
  /-- All requests that the remote store has taken, in their order. -/
  dealings : List (Dealing ι) := []

/-- One thing that happens in a world. -/
inductive Happening (ι : Type)
  /-- An engine does something, but for receiving a reply. -/
  | act (i : ι) (a : Action)
  /-- The remote store takes the request of a task. -/
  | serve (i : ι) (id : Nat) (verdict : Verdict)
  /-- The answer to the request of a task arrives. -/
  | deliver (i : ι) (id : Nat)
  /-- Another program adds to a log. -/
  | append (sender : String) (events : List Event)

/-- An operation from its start to its end, while nothing else happens. -/
def Happening.wholly {ι : Type} (i : ι) (id : Nat) (op : Operation) (verdict : Verdict) :
    List (Happening ι) :=
  [.act i (.begin id op), .act i (.enter id), .serve i id verdict, .deliver i id]

namespace EngineState

/-- The task of an id with the request whose reply it waits for. -/
def caller? (s : EngineState) (id : Nat) : Option (Task × Call) :=
  match s.task? id with
  | some t =>
    match t.stage with
    | .calling c => some (t, c)
    | .queued => none
  | none => none

theorem caller?_eq_some {s : EngineState} {id : Nat} {t : Task} {c : Call} :
    s.caller? id = some (t, c) ↔ s.task? id = some t ∧ t.stage = .calling c := by
  rw [caller?]
  split
  · rename_i u hu
    split
    · rename_i d hd
      simp only [hu, Option.some.injEq, Prod.mk.injEq]
      constructor
      · rintro ⟨rfl, rfl⟩
        exact ⟨rfl, hd⟩
      · rintro ⟨rfl, hc⟩
        exact ⟨rfl, by simpa [hd] using hc⟩
    · rename_i hq
      simp only [hu, Option.some.injEq, reduceCtorEq, false_iff]
      rintro ⟨rfl, hc⟩
      rw [hq] at hc
      cases hc
  · rename_i hnone
    simp [hnone]

end EngineState

/-! ### What one action leaves alone -/

namespace EngineState

variable {e : Engine} {s : EngineState} {t : Task} {c : Call} {a : Action} {id : Nat}

/-- A task goes on waiting until its reply arrives or it is dropped. -/
theorem Sound.caller?_step (hs : s.Sound e) (hcaller : s.caller? id = some (t, c))
    (hcancel : a ≠ .cancel id) (hreply : ∀ r, a ≠ .reply id r) :
    (e.step s a).1.caller? id = some (t, c) := by
  obtain ⟨htask, hstage⟩ := caller?_eq_some.1 hcaller
  obtain ⟨ht, rfl⟩ := hs.task?_eq_some.1 htask
  -- Whoever acts is another task: this one waits, and neither its reply nor its cancellation
  -- comes.
  have hother {u : Task} (hactor : s.actor? a = some u) : t.id ≠ u.id := by
    intro hid
    obtain rfl := hs.eq_of_id ht (mem_of_actor? hactor) hid
    cases a with
    | begin _ _ | sweep _ => cases hactor
    | enter id =>
      rw [(actor?_enter.1 hactor).2.1] at hstage
      cases hstage
    | reply id r => exact hreply r (by rw [id_of_task? (actor?_reply.1 hactor).1])
    | cancel id => exact hcancel (by rw [id_of_task? hactor])
  refine caller?_eq_some.2 ⟨(hs.step a).task?_eq_some.2 ⟨?_, rfl⟩, hstage⟩
  have h := Engine.transition (e := e) s a
  generalize (e.step s a).1 = s', (e.step s a).2 = effects at h
  cases h with
  | ignored | swept => exact ht
  | queued _ htasks =>
    rw [htasks]
    exact List.mem_append_left _ ht
  | called hactor =>
    refine mem_setStage.2 ⟨t, ht, ?_⟩
    rw [if_neg (hother hactor)]
  | left hactor _ hleft =>
    rw [hleft.tasks, List.mem_filter]
    exact ⟨ht, by simpa using hother hactor⟩

/-- The request under way is the one that the task would make now, and it is not for a test
sender. -/
theorem Sound.call_eq (hs : s.Sound e) (hcaller : s.caller? id = some (t, c)) :
    c = e.request (s.cache.entry t.sender) t.operation ∧ e.isTest t.sender = false := by
  obtain ⟨htask, hstage⟩ := caller?_eq_some.1 hcaller
  exact (hs.calls t (mem_of_task? htask) c hstage).symm

theorem callsFor_caller (hcaller : s.caller? id = some (t, c)) :
    t ∈ s.tasks ∧ t.id = id ∧ t.callsFor t.sender = true := by
  obtain ⟨htask, hstage⟩ := caller?_eq_some.1 hcaller
  refine ⟨mem_of_task? htask, id_of_task? htask, Task.callsFor_iff.2 ⟨?_, rfl⟩⟩
  rw [Task.isQueued, hstage]

/-- No two tasks wait for replies about the same sender: they would hold the same lock. -/
theorem Sound.eq_of_caller (hs : s.Sound e) (hcaller : s.caller? id = some (t, c)) {k : Nat}
    {u : Task} {d : Call} (hother : s.caller? k = some (u, d)) (hsender : u.sender = t.sender) :
    k = id ∧ u = t := by
  obtain ⟨ht, htid, htcalls⟩ := callsFor_caller hcaller
  obtain ⟨hu, huid, hucalls⟩ := callsFor_caller hother
  obtain rfl := hs.eq_of_callsFor hu ht (hsender ▸ hucalls) htcalls
  exact ⟨huid.symm.trans htid, rfl⟩

/-- A task waits for what the store answers to its request. -/
theorem Sound.actor?_carryOut (hs : s.Sound e) (hcaller : s.caller? id = some (t, c))
    (verdict : Verdict) (log : List Event) :
    s.actor? (.reply id (verdict.carryOut log c).reply) = some t := by
  obtain ⟨htask, hstage⟩ := caller?_eq_some.1 hcaller
  refine actor?_reply.2 ⟨htask, ?_⟩
  rw [(hs.call_eq hcaller).1]
  cases hop : t.operation with
  | save r =>
    rw [Engine.request]
    split <;> cases verdict <;> simp [Task.awaits, hstage, hop, Verdict.carryOut]
  | retrieve sender =>
    cases verdict <;> simp [Task.awaits, hstage, hop, Engine.request, Verdict.carryOut]

end EngineState

namespace World

variable {ι : Type} [DecidableEq ι] (e : ι → Engine) (w : World ι)

/-- One engine performs an action. -/
def act (i : ι) (a : Action) : World ι :=
  { w with engines := fun j => if j = i then ((e i).step (w.engines i) a).1 else w.engines j }

def setReply (i : ι) (id : Nat) (a : Option LogReply) : World ι :=
  { w with replies := fun j k => if j = i ∧ k = id then a else w.replies j k }

def setLog (sender : String) (log : List Event) : World ι :=
  { w with logs := fun key => if key = sender then log else w.logs key }

/-- The remote store takes the request of a task and sends its reply. -/
def serve (i : ι) (id : Nat) (t : Task) (r : LogReply) : World ι :=
  { (w.setReply i id (some r)).setLog t.sender r.log with
    dealings := w.dealings ++
      [⟨i, (w.engines i).cache.entry t.sender, t.operation, w.logs t.sender⟩] }

/-- One happening.  One that the state has no place for changes nothing, and with a task that is
dropped goes the answer to it. -/
def step : Happening ι → World ι
  | .act _ (.reply _ _) => w
  | .act i (.cancel id) => (w.act e i (.cancel id)).setReply i id none
  | .act i a => w.act e i a
  | .serve i id verdict =>
    match w.replies i id, (w.engines i).caller? id with
    | none, some (t, call) => w.serve i id t (verdict.carryOut (w.logs t.sender) call)
    | _, _ => w
  | .deliver i id =>
    match w.replies i id with
    | some r => (w.act e i (.reply id r.reply)).setReply i id none
    | none => w
  | .append sender events => w.setLog sender (w.logs sender ++ events)

/-- The world after all of that. -/
def after (happenings : List (Happening ι)) : World ι := happenings.foldl (step e) {}

@[simp] theorem after_append (l : List (Happening ι)) (h : Happening ι) :
    after e (l ++ [h]) = (after e l).step e h := by
  simp [after]

@[simp] theorem act_engines (i j : ι) (a : Action) : (w.act e i a).engines j =
    if j = i then ((e i).step (w.engines i) a).1 else w.engines j := rfl

@[simp] theorem setReply_engines (i : ι) (id : Nat) (r : Option LogReply) :
    (w.setReply i id r).engines = w.engines := rfl

@[simp] theorem setReply_replies (i j : ι) (id k : Nat) (r : Option LogReply) :
    (w.setReply i id r).replies j k = if j = i ∧ k = id then r else w.replies j k := rfl

omit [DecidableEq ι] in
@[simp] theorem setLog_logs (key sender : String) (log : List Event) :
    (w.setLog key log).logs sender = if sender = key then log else w.logs sender := rfl

variable {e w}

/-- Replies come from the remote store only; otherwise an engine does what it is told. -/
theorem step_act_engines {a : Action} (ha : ∀ id r, a ≠ .reply id r) (i j : ι) :
    (w.step e (.act i a)).engines j =
      if j = i then ((e i).step (w.engines i) a).1 else w.engines j := by
  rw [← act_engines]
  cases a with
  | reply id r => exact absurd rfl (ha id r)
  | begin _ _ | enter _ | cancel _ | sweep _ => rfl

/-! ### Logs and engines -/

/-- Whatever happens, a log only grows. -/
theorem prefix_logs (h : Happening ι) (sender : String) :
    w.logs sender <+: (w.step e h).logs sender := by
  have hset {key : String} {log : List Event} (hp : w.logs key <+: log) :
      w.logs sender <+: (w.setLog key log).logs sender := by
    rw [setLog_logs]
    split
    · rename_i heq
      exact heq ▸ hp
    · exact List.prefix_rfl
  -- The log of a sender grows when a write is carried out and when another process appends to it.
  cases h with
  | act i a => cases a <;> exact List.prefix_rfl
  | serve i id verdict =>
    rw [step]
    split
    · exact hset (verdict.prefix_log _ _)
    · exact List.prefix_rfl
  | deliver i id =>
    rw [step]
    split <;> exact List.prefix_rfl
  | append key events => exact hset (List.prefix_append _ _)

/-- What is new in a log was added there, or the store was asked. -/
theorem mem_logs_step {h : Happening ι} {sender : String} {event : Event}
    (hevent : event ∈ (w.step e h).logs sender) :
    event ∈ w.logs sender ∨ (∃ events, h = .append sender events ∧ event ∈ events) ∨
      ∃ i id verdict, h = .serve i id verdict := by
  cases h with
  | serve i id verdict => exact .inr (.inr ⟨i, id, verdict, rfl⟩)
  | act i a => cases a <;> exact .inl hevent
  | deliver i id =>
    rw [step] at hevent
    split at hevent <;> exact .inl hevent
  | append key events =>
    by_cases hkey : sender = key
    · subst hkey
      rw [step, setLog_logs, if_pos rfl, List.mem_append] at hevent
      exact hevent.imp_right fun hmem => .inl ⟨events, rfl, hmem⟩
    · rw [step, setLog_logs, if_neg hkey] at hevent
      exact .inl hevent

/-- The state of an engine in a world is one that the engine can come to by itself, from the
operations that were begun in the world. -/
theorem reached (happenings : List (Happening ι)) (i : ι) :
    ∃ actions, (after e happenings).engines i = (e i).after actions ∧
      ∀ id op, .begin id op ∈ actions → .act i (.begin id op) ∈ happenings := by
  induction happenings using List.reverseRecOn with
  | nil => exact ⟨[], rfl, by simp⟩
  | append_singleton l h ih =>
    obtain ⟨actions, heq, hbegun⟩ := ih
    -- A happening is one more action of the engine or none, and only operations that are begun in
    -- the world are begun by it.
    have hkeep : ∃ actions, (after e l).engines i = (e i).after actions ∧
        ∀ id op, .begin id op ∈ actions → .act i (.begin id op) ∈ l ++ [h] :=
      ⟨actions, heq, fun id op hm => List.mem_append_left _ (hbegun id op hm)⟩
    have hmove (j : ι) (a : Action)
        (hh : ∀ id op, a = .begin id op → h = .act j (.begin id op)) :
        ∃ actions, ((after e l).act e j a).engines i = (e i).after actions ∧
          ∀ id op, .begin id op ∈ actions → .act i (.begin id op) ∈ l ++ [h] := by
      rw [act_engines]
      split
      · rename_i hij
        subst hij
        refine ⟨actions ++ [a], by rw [Engine.after_append, heq], fun id op hm => ?_⟩
        rw [List.mem_append, List.mem_singleton] at hm ⊢
        exact hm.imp (hbegun id op) fun heq => (hh id op heq.symm).symm
      · exact hkeep
    rw [after_append]
    cases h with
    | act j a =>
      cases a with
      | reply _ _ => exact hkeep
      | begin id op => exact hmove j _ (by rintro _ _ ⟨⟩; rfl)
      | enter _ | sweep _ | cancel _ => exact hmove j _ (by simp)
    | serve j id verdict =>
      rw [step]
      split <;> exact hkeep
    | deliver j id =>
      rw [step]
      split
      · exact hmove j _ (by simp)
      · exact hkeep
    | append sender events => exact hkeep

theorem sound_after (happenings : List (Happening ι)) (i : ι) :
    ((after e happenings).engines i).Sound (e i) := by
  obtain ⟨actions, heq, -⟩ := reached (e := e) happenings i
  rw [heq]
  exact (e i).sound_after actions

/-! ### Replies on their way -/

theorem step_serve (i : ι) (id : Nat) (verdict : Verdict) :
    w.step e (.serve i id verdict) = w ∨
    ∃ t call, (w.engines i).caller? id = some (t, call) ∧ w.replies i id = none ∧
      w.step e (.serve i id verdict) = w.serve i id t (verdict.carryOut (w.logs t.sender) call) := by
  rw [step]
  split
  · rename_i t call hnone hcaller
    exact .inr ⟨t, call, hcaller, hnone, rfl⟩
  · exact .inl rfl

theorem replies_forget {i j : ι} {id k : Nat} {r : LogReply}
    (h : (w.setReply i id none).replies j k = some r) :
    w.replies j k = some r ∧ ¬ (j = i ∧ k = id) := by
  rw [setReply_replies] at h
  split at h
  · cases h
  · exact ⟨h, ‹_›⟩

theorem caller?_act (hs : ∀ i, (w.engines i).Sound (e i)) {i j : ι} {a : Action} {k : Nat}
    {x : Task × Call} (ha : j = i → a ≠ .cancel k ∧ ∀ r, a ≠ .reply k r)
    (hcaller : (w.engines j).caller? k = some x) :
    ((w.act e i a).engines j).caller? k = some x := by
  rw [act_engines]
  split
  · rename_i hij
    subst hij
    exact (hs j).caller?_step hcaller (ha rfl).1 (ha rfl).2
  · exact hcaller

/-- But for those of the requests that are being taken, replies were on their way before, and the
tasks that they are for have been waiting. -/
theorem replies_step (hs : ∀ i, (w.engines i).Sound (e i)) {h : Happening ι}
    (hserve : ∀ i id verdict, h ≠ .serve i id verdict) {j : ι} {k : Nat} {r : LogReply}
    (hr : (w.step e h).replies j k = some r) :
    w.replies j k = some r ∧ ∀ x, (w.engines j).caller? k = some x →
      ((w.step e h).engines j).caller? k = some x := by
  cases h with
  | serve i id verdict => exact absurd rfl (hserve i id verdict)
  | append sender events => exact ⟨hr, fun _ hx => hx⟩
  | act i a =>
    cases a with
    | reply _ _ => exact ⟨hr, fun _ hx => hx⟩
    | begin _ _ | enter _ | sweep _ => exact ⟨hr, fun _ hx => caller?_act hs (by simp) hx⟩
    | cancel id =>
      obtain ⟨hold, hne⟩ := replies_forget hr
      refine ⟨hold, fun _ hx => caller?_act hs (fun hij => ⟨?_, by simp⟩) hx⟩
      -- The reply that is gone is the one of the task that acts.
      rintro ⟨⟩
      exact hne ⟨hij, rfl⟩
  | deliver i id =>
    rw [step] at hr ⊢
    split at hr
    · obtain ⟨hold, hne⟩ := replies_forget hr
      refine ⟨hold, fun _ hx => caller?_act hs (fun hij => ⟨by simp, ?_⟩) hx⟩
      rintro r ⟨⟩
      exact hne ⟨hij, rfl⟩
    · exact ⟨hr, fun _ hx => hx⟩

variable (w) in
/-- Each reply on its way is for a task that waits for it, and it tells of a log as it was. -/
def Answered : Prop :=
  ∀ i id r, w.replies i id = some r → ∃ t call, (w.engines i).caller? id = some (t, call) ∧
    (∃ (verdict : Verdict) (log : List Event), r = verdict.carryOut log call) ∧
    r.log <+: w.logs t.sender

theorem Answered.step (hw : w.Answered) (hs : ∀ i, (w.engines i).Sound (e i))
    (h : Happening ι) : (w.step e h).Answered := by
  have hold {j : ι} {k : Nat} {r : LogReply} (hr : w.replies j k = some r)
      (hcaller : ∀ x, (w.engines j).caller? k = some x →
        ((w.step e h).engines j).caller? k = some x) :
      ∃ t call, ((w.step e h).engines j).caller? k = some (t, call) ∧
        (∃ (verdict : Verdict) (log : List Event), r = verdict.carryOut log call) ∧
        r.log <+: (w.step e h).logs t.sender := by
    obtain ⟨t, call, hx, hanswer, hlog⟩ := hw j k r hr
    exact ⟨t, call, hcaller _ hx, hanswer, hlog.trans (prefix_logs h t.sender)⟩
  intro j k r hr
  by_cases hserve : ∃ i id verdict, h = .serve i id verdict
  · obtain ⟨i, id, verdict, rfl⟩ := hserve
    rcases step_serve (e := e) (w := w) i id verdict with heq | ⟨t, call, hcaller, -, heq⟩
    · rw [heq] at hr
      exact hold hr (by rw [heq]; exact fun _ hx => hx)
    · rw [heq] at hr hold ⊢
      have hreplies : (w.setReply i id (some (verdict.carryOut (w.logs t.sender) call))).replies
          j k = some r := hr
      rw [setReply_replies] at hreplies
      split at hreplies
      · rename_i hjk
        obtain ⟨rfl, rfl⟩ := hjk
        cases hreplies
        exact ⟨t, call, hcaller, ⟨verdict, _, rfl⟩, by simp [World.serve, setLog]⟩
      · exact hold hreplies fun _ hx => hx
  · -- Whatever else happens, no reply is sent.
    obtain ⟨hr', hcaller⟩ := replies_step hs (by simpa using hserve) hr
    exact hold hr' hcaller

theorem answered_after (happenings : List (Happening ι)) : (after e happenings).Answered := by
  induction happenings using List.reverseRecOn with
  | nil => intro i id r hr; cases hr
  | append_singleton l h ih =>
    rw [after_append]
    exact ih.step (sound_after l) h

/-- A reply that is on its way after a happening, and not because of it, was on its way before, for
the same task. -/
theorem caller?_before (hw : w.Answered) (hs : ∀ i, (w.engines i).Sound (e i)) {h : Happening ι}
    (hserve : ∀ i id verdict, h ≠ .serve i id verdict) {j : ι} {id : Nat} {x : Task × Call}
    {r : LogReply} (hcaller : ((w.step e h).engines j).caller? id = some x)
    (hr : (w.step e h).replies j id = some r) :
    (w.engines j).caller? id = some x ∧ w.replies j id = some r := by
  obtain ⟨hr, hkeep⟩ := World.replies_step hs hserve hr
  obtain ⟨t, call, hbefore, -⟩ := hw j id r hr
  have hsame := hcaller.symm.trans (hkeep _ hbefore)
  exact ⟨hsame ▸ hbefore, hr⟩

/-- A reply stays on its way until it arrives or its task is dropped. -/
theorem on_its_way_step (hs : ∀ i, (w.engines i).Sound (e i)) {h : Happening ι} {i : ι} {id : Nat}
    {x : Task × Call} {r : LogReply} (hcaller : (w.engines i).caller? id = some x)
    (hr : w.replies i id = some r) (hdeliver : h ≠ .deliver i id)
    (hcancel : h ≠ .act i (.cancel id)) :
    ((w.step e h).engines i).caller? id = some x ∧ (w.step e h).replies i id = some r := by
  -- Forgetting the reply of another task leaves this one.
  have hforget {j : ι} {k : Nat} (hne : ¬ (i = j ∧ id = k)) {w' : World ι}
      (hw' : w'.replies = w.replies) : (w'.setReply j k none).replies i id = some r := by
    rw [setReply_replies, if_neg hne, hw']
    exact hr
  cases h with
  | append sender events => exact ⟨hcaller, hr⟩
  | act j a =>
    cases a with
    | reply _ _ => exact ⟨hcaller, hr⟩
    | begin _ _ | enter _ | sweep _ => exact ⟨caller?_act hs (by simp) hcaller, hr⟩
    | cancel k =>
      have hne : ¬ (i = j ∧ id = k) := by
        rintro ⟨rfl, rfl⟩
        exact hcancel rfl
      refine ⟨caller?_act hs (fun hij => ⟨?_, by simp⟩) hcaller, hforget hne rfl⟩
      rintro ⟨⟩
      exact hne ⟨hij, rfl⟩
  | deliver j k =>
    rw [step]
    split
    · have hne : ¬ (i = j ∧ id = k) := by
        rintro ⟨rfl, rfl⟩
        exact hdeliver rfl
      refine ⟨caller?_act hs (fun hij => ⟨by simp, ?_⟩) hcaller, hforget hne rfl⟩
      rintro _ ⟨⟩
      exact hne ⟨hij, rfl⟩
    · exact ⟨hcaller, hr⟩
  | serve j k verdict =>
    rcases step_serve (e := e) (w := w) j k verdict with heq | ⟨t, call, -, hnone, heq⟩
    · rw [heq]
      exact ⟨hcaller, hr⟩
    · -- Whoever is served has had no reply on its way.
      have hne : ¬ (i = j ∧ id = k) := by
        rintro ⟨rfl, rfl⟩
        rw [hnone] at hr
        cases hr
      rw [heq]
      exact ⟨hcaller, (if_neg hne).trans hr⟩

/-! ### What is cached -/

variable (w) in
/-- No reply is on its way to an engine that is about a sender. -/
def Quiet (i : ι) (sender : String) : Prop :=
  ∀ id t call r, (w.engines i).caller? id = some (t, call) → t.sender = sender →
    w.replies i id ≠ some r

/-- A reply that arrives makes of its task's sender's entry what the operation makes of it. -/
theorem entry_deliver {j : ι} {k : Nat} {r : LogReply} {t : Task} (hr : w.replies j k = some r)
    (hactor : (w.engines j).actor? (.reply k r.reply) = some t) (i : ι) (sender : String) :
    ((w.step e (.deliver j k)).engines i).cache.entry sender =
      if i = j ∧ t.sender = sender then
        ((e i).conclude ((w.engines i).cache.entry sender) t.operation r.reply).1
      else (w.engines i).cache.entry sender := by
  rw [step, hr]
  dsimp only
  rw [setReply_engines, act_engines]
  by_cases hij : i = j
  · subst hij
    simp [Engine.entry_step_reply hactor]
  · simp [hij]

/-- When a reply has arrived, no other one is on its way that is about the same sender. -/
theorem quiet_of_deliver (hw : w.Answered) (hs : ∀ i, (w.engines i).Sound (e i)) {i : ι} {k : Nat}
    {r : LogReply} {t : Task} {call : Call}
    (hcaller : (w.engines i).caller? k = some (t, call)) (hr : w.replies i k = some r) :
    (w.step e (.deliver i k)).Quiet i t.sender := by
  intro id u c r' hu husender hr'
  obtain ⟨hbefore, -⟩ := caller?_before hw hs (by simp) hu hr'
  obtain ⟨rfl, -⟩ := (hs i).eq_of_caller hcaller hbefore husender
  rw [step, hr] at hr'
  exact (replies_forget hr').2 ⟨rfl, rfl⟩

/-- Whatever an engine does by itself, a sender's entry stays, or the sender is evicted while no
reply is on its way that is about it. -/
theorem entry_act {i : ι} {sender : String} (htest : (e i).isTest sender = false)
    (l : List (Happening ι)) (j : ι) (a : Action) :
    (((after e l).step e (.act j a)).engines i).cache.entry sender =
        ((after e l).engines i).cache.entry sender ∨
      (((after e l).step e (.act j a)).engines i).cache.entry sender = {} ∧
        ((after e l).step e (.act j a)).Quiet i sender := by
  by_cases hreply : ∃ id r, a = .reply id r
  · obtain ⟨id, r, rfl⟩ := hreply
    exact .inl rfl
  · have ha : ∀ id r, a ≠ .reply id r := by simpa using hreply
    have hengines := step_act_engines (e := e) (w := after e l) ha j i
    by_cases hij : i = j
    · subst hij
      rw [if_pos rfl] at hengines
      obtain ⟨actions, hreached, -⟩ := reached (e := e) l i
      rw [hreached] at hengines
      have hentry := Engine.entry_step htest actions ha
      split at hentry
      · rename_i hevicts
        refine .inr ⟨by rw [hengines, hentry], fun id t call r hcaller hsender hr => ?_⟩
        -- Nobody waits for a reply, so that none is on its way.
        obtain ⟨hbefore, -⟩ :=
          caller?_before (answered_after l) (sound_after l) (by simp) hcaller hr
        obtain ⟨ht, -, hcalls⟩ := EngineState.callsFor_caller hbefore
        rw [hreached] at ht
        rw [hsender, Engine.idle_of_evicts hevicts t ht] at hcalls
        cases hcalls
      · exact .inl (by rw [hengines, hreached, hentry])
    · rw [if_neg hij] at hengines
      exact .inl (by rw [hengines])

/-! ### What the remote store was asked -/

theorem mem_dealings_step {d : Dealing ι} (h : Happening ι) (hd : d ∈ w.dealings) :
    d ∈ (w.step e h).dealings := by
  cases h with
  | act i a => cases a <;> exact hd
  | append sender events => exact hd
  | deliver i id =>
    rw [step]
    split <;> exact hd
  | serve i id verdict =>
    rcases step_serve (e := e) (w := w) i id verdict with heq | ⟨t, call, -, -, heq⟩
    · rw [heq]
      exact hd
    · rw [heq]
      exact List.mem_append_left _ hd

/-- The remote store is asked for operations that were begun. -/
theorem begun_of_dealing (happenings : List (Happening ι)) {d : Dealing ι}
    (hd : d ∈ (after e happenings).dealings) : ∃ id op,
      .act d.engine (.begin id op) ∈ happenings ∧
        op.anonymize (e d.engine).anonymize = d.operation := by
  induction happenings using List.reverseRecOn with
  | nil => cases hd
  | append_singleton l h ih =>
    have hold (hd : d ∈ (after e l).dealings) : ∃ id op,
        .act d.engine (.begin id op) ∈ l ++ [h] ∧
          op.anonymize (e d.engine).anonymize = d.operation := by
      obtain ⟨id, op, hm, hop⟩ := ih hd
      exact ⟨id, op, List.mem_append_left _ hm, hop⟩
    rw [after_append] at hd
    cases h with
    | act i a => cases a <;> exact hold hd
    | append sender events => exact hold hd
    | deliver i id =>
      rw [step] at hd
      split at hd <;> exact hold hd
    | serve i id verdict =>
      rcases step_serve (e := e) (w := after e l) i id verdict with heq | ⟨t, call, hcaller, -, heq⟩
      · rw [heq] at hd
        exact hold hd
      · rw [heq, serve, List.mem_append, List.mem_singleton] at hd
        rcases hd with hd | rfl
        · exact hold hd
        · -- What the engine serves here is a task of its own run, and that was begun in the world.
          obtain ⟨actions, hreached, hbegun⟩ := reached (e := e) l i
          have ht := (EngineState.callsFor_caller hcaller).1
          rw [hreached] at ht
          obtain ⟨op, hop, hanon⟩ := (e i).begun_of_task actions ht
          exact ⟨t.id, op,
            List.mem_append_left _ (hbegun _ _ ((e i).mem_of_begun hop)), hanon⟩

end World

end DialogueStore
