/-
Senders do not interfere with each other.

In a run the steps of a sender's tasks stand among those of everybody else.  What
the sender gets to see depends on its own steps and on the sweeps only, in their
order: take all other steps out of the run, and its tasks make the same requests,
they end with the same outcomes, and the same is cached for it after each step.

* `Engine.stepsOf` — what is left of a run without the steps of others,
* `Engine.observed` — what the sender sees of each step that concerns it,
* `Engine.alike_stepsOf` — a sender is served alike with the others and without them,
* `Engine.unaffected_by_others` — two runs in which a sender takes the same steps are
  the same to it, whatever others do in them.

Design notes: handles are numbered for all senders together, so that their numbers
tell how many others there are.  Tasks are compared without them, and who holds a
lock is read off the order of the tasks (`EngineState.InTurn.holds_iff`).
-/
import DialogueStore.Proofs.Delivery
import DialogueStore.Proofs.Serial
import DialogueStore.Proofs.Turns

namespace DialogueStore

namespace Task

/-- A task without the number of its handle. -/
def bare (t : Task) : Task := { t with handle := 0 }

/-- What does not look at the handle is the same for two tasks that differ in the handle only. -/
theorem congr_of_bare {α : Type} {t u : Task} (f : Task → α) (h : u.bare = t.bare)
    (hf : ∀ v : Task, f v.bare = f v := by exact fun _ => rfl) : f u = f t := by
  rw [← hf u, h, hf t]

end Task

namespace EngineState

/-- The tasks of a sender in the order in which they began. -/
def queue (s : EngineState) (sender : String) : List Task :=
  (s.tasks.filter fun t => t.sender = sender).map Task.bare

variable {e : Engine} {s s' : EngineState} {t u : Task} {sender : String} {id : Nat}

theorem mem_queue : u ∈ s.queue sender ↔ ∃ t ∈ s.tasks, t.sender = sender ∧ t.bare = u := by
  simp [queue, and_assoc]

theorem head?_queue (s : EngineState) (sender : String) :
    (s.queue sender).head? = (s.first? sender).map Task.bare := by
  rw [queue, List.head?_map, List.head?_filter, first?]

/-- A task of another sender has an id of its own. -/
theorem Sound.id_ne_of_mem_queue (hs : s.Sound e) (ht : t ∈ s.tasks) (hne : t.sender ≠ sender)
    (hu : u ∈ s.queue sender) : u.id ≠ t.id := by
  obtain ⟨v, hv, hvs, rfl⟩ := mem_queue.1 hu
  intro hid
  have hvt : v = t := hs.eq_of_id hv ht hid
  exact hne (hvt ▸ hvs)

theorem queue_append (htasks : s'.tasks = s.tasks ++ [t]) (sender : String) :
    s'.queue sender = s.queue sender ++ if t.sender = sender then [t.bare] else [] := by
  rw [queue, htasks, List.filter_append, List.map_append, ← queue]
  by_cases h : t.sender = sender <;> simp [h]

theorem queue_filter (htasks : s'.tasks = s.tasks.filter fun u => u.id ≠ id) (sender : String) :
    s'.queue sender = (s.queue sender).filter fun u => u.id ≠ id := by
  rw [queue, htasks, List.filter_comm, queue, List.filter_map]
  rfl

theorem queue_setStage (s : EngineState) (id : Nat) (stage : Stage) (sender : String) :
    (s.setStage id stage).queue sender =
      (s.queue sender).map fun u => if u.id = id then { u with stage } else u := by
  have hbare : ∀ v : Task, (if v.id = id then { v with stage } else v).bare =
      if v.bare.id = id then { v.bare with stage } else v.bare := by
    intro v
    by_cases hv : v.id = id
    · rw [if_pos hv, if_pos (show v.bare.id = id from hv)]
      rfl
    · rw [if_neg hv, if_neg (show ¬ v.bare.id = id from hv)]
  rw [queue, filter_setStage _ _ _ fun _ _ => rfl, List.map_map, queue, List.map_map]
  exact List.map_congr_left fun v _ => hbare v

end EngineState

namespace Engine

variable (e : Engine)

/-- Whether a moment concerns a sender: a task of it begins or moves, or the cache is swept. -/
def concerns (sender : String) (m : Moment) : Bool :=
  match m.action with
  | .begin id op => op.sender = sender && ((e.after m.past).task? id).isNone
  | .sweep _ => true
  | _ => (e.actor? m).any fun t => t.sender = sender

/-- The steps of a sender's tasks, and the sweeps. -/
def stepsOf (sender : String) (actions : List Action) : List Action :=
  ((moments actions).filter (e.concerns sender)).map (·.action)

/-- What a sender sees of a step. -/
structure Observation where
  action : Action
  /-- The requests and outcomes of its tasks, and what is published of it. -/
  effects : List Effect
  /-- What is cached for it afterwards. -/
  entry : Entry

def observe (sender : String) (m : Moment) : Observation :=
  ⟨m.action, e.shownAt sender m, (e.step (e.after m.past) m.action).1.cache.entry sender⟩

/-- What a sender sees of a run, step by step. -/
def observed (sender : String) (actions : List Action) : List Observation :=
  ((moments actions).filter (e.concerns sender)).map (e.observe sender)

/-- Two runs that have led to the same for a sender: the same is cached for it, and the same tasks of
it are under way in the same order. -/
structure Alike (sender : String) (l l' : List Action) : Prop where
  entry : (e.after l).cache.entry sender = (e.after l').cache.entry sender
  queue : (e.after l).queue sender = (e.after l').queue sender

variable {e} {sender : String} {l l' : List Action} {a : Action} {t t' : Task} {id : Nat}

theorem stepsOf_append (l : List Action) (a : Action) : e.stepsOf sender (l ++ [a]) =
    e.stepsOf sender l ++ if e.concerns sender ⟨l, a⟩ then [a] else [] := by
  rw [stepsOf, moments_append, List.filter_append, List.map_append, ← stepsOf]
  cases h : e.concerns sender ⟨l, a⟩ <;> simp [h]

theorem observed_append (l : List Action) (a : Action) : e.observed sender (l ++ [a]) =
    e.observed sender l ++ if e.concerns sender ⟨l, a⟩ then [e.observe sender ⟨l, a⟩] else [] := by
  rw [observed, moments_append, List.filter_append, List.map_append, ← observed]
  cases h : e.concerns sender ⟨l, a⟩ <;> simp [h]

/-- What a task leaves depends on its operation, and not on the number of its handle. -/
theorem leave_eq_of_bare (h : t'.bare = t.bare) (x : Entry) (a : Action) :
    e.leave x t' a = e.leave x t a := by
  have hid := Task.congr_of_bare Task.id h
  have hop := Task.congr_of_bare Task.operation h
  cases a with
  | enter id => rw [leave, leave, hid, hop]
  | reply id r => rw [leave, leave, hid, hop]
  | begin _ _ | cancel _ | sweep _ => rfl

namespace Alike

theorem symm (h : e.Alike sender l l') : e.Alike sender l' l := ⟨h.entry.symm, h.queue.symm⟩

theorem trans {l'' : List Action} (h : e.Alike sender l l') (h' : e.Alike sender l' l'') :
    e.Alike sender l l'' :=
  ⟨h.entry.trans h'.entry, h.queue.trans h'.queue⟩

/-- Each task of the sender has its counterpart. -/
theorem counterpart (h : e.Alike sender l l') (ht : t ∈ (e.after l).tasks)
    (hsender : t.sender = sender) : ∃ t' ∈ (e.after l').tasks, t'.bare = t.bare := by
  have hmem : t.bare ∈ (e.after l).queue sender := EngineState.mem_queue.2 ⟨t, ht, hsender, rfl⟩
  rw [h.queue] at hmem
  obtain ⟨t', ht', -, hbare⟩ := EngineState.mem_queue.1 hmem
  exact ⟨t', ht', hbare⟩

/-- The counterpart of a task that holds the lock holds it as well. -/
theorem holds (h : e.Alike sender l l') (ht : t ∈ (e.after l).tasks)
    (ht' : t' ∈ (e.after l').tasks) (hsender : t.sender = sender) (hbare : t'.bare = t.bare)
    (hh : (e.after l).cache.locks.holds t.handle = true) :
    (e.after l').cache.locks.holds t'.handle = true := by
  have hsender' : t'.sender = sender := by rw [Task.congr_of_bare Task.sender hbare, hsender]
  have hfirst : (e.after l).first? sender = some t := by
    rw [← hsender]
    exact (e.holds_iff_first l ht).1 hh
  -- Both are the first of their queues.
  have hheads : ((e.after l').first? sender).map Task.bare = some t.bare := by
    rw [← EngineState.head?_queue, ← h.queue, EngineState.head?_queue, hfirst, Option.map_some]
  obtain ⟨u, hu, hbare'⟩ := Option.map_eq_some_iff.1 hheads
  have hid : u.id = t'.id := Task.congr_of_bare Task.id (hbare'.trans hbare.symm)
  obtain rfl := (e.sound_after l').eq_of_id (List.mem_of_find?_eq_some hu) ht' hid
  rw [e.holds_iff_first l' ht', hsender']
  exact hu

/-- What a task of the sender can do, its counterpart can do as well. -/
theorem actor? (h : e.Alike sender l l') (hactor : (e.after l).actor? a = some t)
    (hsender : t.sender = sender) :
    ∃ t', (e.after l').actor? a = some t' ∧ t'.bare = t.bare := by
  have ht := EngineState.mem_of_actor? hactor
  obtain ⟨t', ht', hbare⟩ := h.counterpart ht hsender
  have htask' : (e.after l').task? t.id = some t' :=
    (e.sound_after l').task?_eq_some.2 ⟨ht', Task.congr_of_bare Task.id hbare⟩
  refine ⟨t', ?_, hbare⟩
  cases a with
  | begin _ _ | sweep _ => cases hactor
  | cancel id =>
    obtain rfl := EngineState.id_of_task? hactor
    exact htask'
  | reply id r =>
    obtain ⟨htask, hw⟩ := EngineState.actor?_reply.1 hactor
    obtain rfl := EngineState.id_of_task? htask
    have hw' : t'.awaits r = true := by rw [Task.congr_of_bare (·.awaits r) hbare, hw]
    exact EngineState.actor?_reply.2 ⟨htask', hw'⟩
  | enter id =>
    obtain ⟨htask, hq, hh⟩ := EngineState.actor?_enter.1 hactor
    obtain rfl := EngineState.id_of_task? htask
    have hq' : t'.stage = .queued := by rw [Task.congr_of_bare Task.stage hbare, hq]
    have hh' := h.holds ht ht' hsender hbare hh
    exact EngineState.actor?_enter.2 ⟨htask', hq', hh'⟩

/-- Whether a task of the sender can do something is the same in both runs. -/
theorem any_actor? (h : e.Alike sender l l') (a : Action) :
    (((e.after l).actor? a).any fun t => t.sender = sender) =
      ((e.after l').actor? a).any fun t => t.sender = sender := by
  have hmove : ∀ {l l' : List Action}, e.Alike sender l l' →
      (((e.after l).actor? a).any fun t => t.sender = sender) = true →
      (((e.after l').actor? a).any fun t => t.sender = sender) = true := by
    intro l l' h hany
    obtain ⟨t, hactor, hsender⟩ := Option.any_eq_true _ _ |>.1 hany
    have hsender : t.sender = sender := by simpa using hsender
    obtain ⟨t', hactor', hbare⟩ := h.actor? hactor hsender
    rw [hactor', Option.any_some, Task.congr_of_bare Task.sender hbare, hsender]
    simp
  exact Bool.eq_iff_iff.2 ⟨hmove h, hmove h.symm⟩

/-- A sender is locked in both runs, or in none. -/
theorem isLocked (h : e.Alike sender l l') : (e.after l).cache.locks.isLocked sender =
    (e.after l').cache.locks.isLocked sender := by
  have hqueue : ∀ l, (e.after l).cache.locks.isLocked sender = true ↔
      (e.after l).queue sender ≠ [] := by
    intro l
    rw [isLocked_iff_task, EngineState.queue, Ne, List.map_eq_nil_iff, List.filter_eq_nil_iff]
    simp
  rw [Bool.eq_iff_iff, hqueue, hqueue, h.queue]

/-! ### Steps of others -/

/-- What does not concern the sender changes nothing for it. -/
theorem skip (h : e.Alike sender l' l) (hnot : e.concerns sender ⟨l, a⟩ = false) :
    e.Alike sender l' (l ++ [a]) := by
  have hs := e.sound_after l
  -- The other run does not move here: it is enough that this action leaves the sender alone.
  suffices hkept : (e.step (e.after l) a).1.cache.entry sender = (e.after l).cache.entry sender ∧
      (e.step (e.after l) a).1.queue sender = (e.after l).queue sender by
    refine ⟨?_, ?_⟩
    · rw [after_append, hkept.1, h.entry]
    · rw [after_append, hkept.2, h.queue]
  -- Whoever acts is a task of another sender, since the action does not concern this one.
  have hother : ∀ t, (e.after l).actor? a = some t → t.sender ≠ sender := by
    intro t hactor hsender
    have hyes : e.concerns sender ⟨l, a⟩ = true := by
      cases a with
      | begin _ _ | sweep _ => cases hactor
      | enter _ | reply _ _ | cancel _ => simp [concerns, Engine.actor?, hactor, hsender]
    rw [hnot] at hyes
    cases hyes
  have htransition := transition (e := e) (e.after l) a
  generalize (e.step (e.after l) a).1 = s', (e.step (e.after l) a).2 = effects at htransition ⊢
  cases htransition with
  | ignored => exact ⟨rfl, rfl⟩
  | @queued id op _ hid htasks _ hentry =>
    have hne : op.sender ≠ sender := by simpa [concerns, hid] using hnot
    refine ⟨hentry sender, ?_⟩
    rw [EngineState.queue_append htasks, if_neg, List.append_nil]
    rw [Task.sender, Operation.sender_anonymize]
    exact hne
  | @called _ t hactor _ =>
    have ht := EngineState.mem_of_actor? hactor
    refine ⟨rfl, ?_⟩
    rw [EngineState.queue_setStage]
    refine (List.map_congr_left fun u hu => ?_).trans (List.map_id _)
    -- Identifiers tell tasks apart, so the tasks of the sender are not the one that moves.
    exact if_neg (hs.id_ne_of_mem_queue ht (hother t hactor) hu)
  | @left _ t _ _ hactor _ hleft =>
    have ht := EngineState.mem_of_actor? hactor
    refine ⟨?_, ?_⟩
    · rw [hleft.entry, if_neg (hother t hactor)]
    · rw [EngineState.queue_filter hleft.tasks, List.filter_eq_self]
      intro u hu
      simpa using hs.id_ne_of_mem_queue ht (hother t hactor) hu
  | swept now => cases hnot

/-! ### Steps of the sender -/

/-- A task that the sender begins stands at the end of both queues. -/
theorem begin (h : e.Alike sender l l') {op : Operation} (hid : (e.after l).task? id = none)
    (hid' : (e.after l').task? id = none) :
    e.Alike sender (l ++ [.begin id op]) (l' ++ [.begin id op]) := by
  have hbegin : ∀ l, (e.after l).task? id = none →
      (e.after (l ++ [.begin id op])).cache.entry sender = (e.after l).cache.entry sender ∧
      (e.after (l ++ [.begin id op])).queue sender = (e.after l).queue sender ++
        if op.sender = sender then [⟨id, op.anonymize e.anonymize, 0, .queued⟩] else [] := by
    intro l hid
    have htransition := transition (e := e) (e.after l) (.begin id op)
    rw [after_append]
    generalize (e.step (e.after l) (.begin id op)).1 = s',
      (e.step (e.after l) (.begin id op)).2 = effects at htransition ⊢
    cases htransition with
    | ignored _ hbegin => exact absurd hid (hbegin rfl)
    | left hactor => cases hactor
    | queued _ htasks _ hentry =>
      refine ⟨hentry sender, ?_⟩
      rw [EngineState.queue_append htasks, Task.sender, Operation.sender_anonymize]
      rfl
  refine ⟨?_, ?_⟩
  · rw [(hbegin l hid).1, (hbegin l' hid').1, h.entry]
  · rw [(hbegin l hid).2, (hbegin l' hid').2, h.queue]

/-- A sweep finds the same in both runs. -/
theorem sweep (h : e.Alike sender l l') (now : Float) :
    e.Alike sender (l ++ [.sweep now]) (l' ++ [.sweep now]) := by
  have hentry : ∀ l, (e.after (l ++ [.sweep now])).cache.entry sender =
      if (e.after l).cache.locks.isLocked sender then (e.after l).cache.entry sender
      else ((e.after l).cache.entry sender).sweep e.config.retention now := by
    intro l
    obtain ⟨-, -, hentry, -⟩ :=
      (e.after l).cache.sweepAt_spec (e.sound_after l).coherent e.config.retention now
    rw [after_append]
    exact hentry sender
  refine ⟨?_, ?_⟩
  · rw [hentry, hentry, h.isLocked, h.entry]
  · rw [after_append, after_append]
    exact h.queue

/-- A task and its counterpart do the same, and the same is seen of it. -/
theorem move (h : e.Alike sender l l') (hactor : (e.after l).actor? a = some t)
    (hactor' : (e.after l').actor? a = some t') (hbare : t'.bare = t.bare)
    (hsender : t.sender = sender) : e.Alike sender (l ++ [a]) (l' ++ [a]) ∧
      (e.step (e.after l) a).2 = (e.step (e.after l') a).2 := by
  have hid := Task.congr_of_bare Task.id hbare
  have hop := Task.congr_of_bare Task.operation hbare
  have hsender' := Task.congr_of_bare Task.sender hbare
  subst hsender
  -- The two tasks differ in their stamps alone, so that both end here or both enter.
  cases hends : e.ends t a with
  | true =>
    have hends' : e.ends t' a = true := by
      rw [Task.congr_of_bare (fun v : Task => e.ends v a) hbare (by cases a <;> exact fun _ => rfl)]
      exact hends
    have hleft := step_left hactor hends
    have hleft' := step_left hactor' hends'
    refine ⟨⟨?_, ?_⟩, ?_⟩
    · rw [after_append, after_append, hleft.entry, hleft'.entry, if_pos rfl, if_pos hsender',
        leave_eq_of_bare hbare, h.entry]
    · rw [after_append, after_append, EngineState.queue_filter hleft.tasks,
        EngineState.queue_filter hleft'.tasks, h.queue, hid]
    · rw [hleft.effects_eq, hleft'.effects_eq, leave_eq_of_bare hbare, hsender', h.entry]
  | false =>
    obtain ⟨⟨id, rfl⟩, htest⟩ := enter_of_not_ends hactor hends
    have hstep := step_called hactor htest
    have hstep' := step_called (e := e) hactor' (by rw [hsender']; exact htest)
    rw [hid, hop, hsender', ← h.entry] at hstep'
    refine ⟨⟨?_, ?_⟩, ?_⟩
    · rw [after_append, after_append, hstep, hstep']
      exact h.entry
    · rw [after_append, after_append, hstep, hstep', EngineState.queue_setStage,
        EngineState.queue_setStage, h.queue]
    · rw [hstep, hstep']

end Alike

/-! ### The sender's steps alone -/

/-- In a run of the sender's steps nobody else has a task. -/
theorem alone_append (halone : ∀ t ∈ (e.after l).tasks, t.sender = sender)
    (hbegin : ∀ id op, a = .begin id op → op.sender = sender) :
    ∀ t ∈ (e.after (l ++ [a])).tasks, t.sender = sender := by
  have htransition := transition (e := e) (e.after l) a
  rw [after_append]
  generalize (e.step (e.after l) a).1 = s', (e.step (e.after l) a).2 = effects at htransition ⊢
  intro t ht
  cases htransition with
  | ignored | swept => exact halone t ht
  | @queued id op _ _ htasks =>
    rw [htasks, List.mem_append, List.mem_singleton] at ht
    rcases ht with ht | rfl
    · exact halone t ht
    · rw [Task.sender, Operation.sender_anonymize]
      exact hbegin id op rfl
  | called =>
    obtain ⟨u, hu, rfl⟩ := EngineState.mem_setStage.1 ht
    exact halone u hu
  | left _ _ hleft =>
    rw [hleft.tasks] at ht
    exact halone t (List.mem_filter.1 ht).1

/-- What a sender does next, it does in a run of its own steps as well, with the same outcome. -/
theorem Alike.own (h : e.Alike sender l' l) (halone : ∀ t ∈ (e.after l').tasks, t.sender = sender)
    (hconcerns : e.concerns sender ⟨l, a⟩ = true) : e.concerns sender ⟨l', a⟩ = true ∧
      e.Alike sender (l' ++ [a]) (l ++ [a]) ∧
      e.observe sender ⟨l', a⟩ = e.observe sender ⟨l, a⟩ := by
  suffices hnext : e.concerns sender ⟨l', a⟩ = true ∧ e.Alike sender (l' ++ [a]) (l ++ [a]) ∧
      e.shownAt sender ⟨l', a⟩ = e.shownAt sender ⟨l, a⟩ by
    obtain ⟨hconcerns', hnext, hshown⟩ := hnext
    have hentry := hnext.entry
    rw [after_append, after_append] at hentry
    exact ⟨hconcerns', hnext, by rw [observe, observe, hshown, hentry]⟩
  have hmove : ∀ t, (e.after l).actor? a = some t → t.sender = sender →
      ((e.after l').actor? a).any (fun t => t.sender = sender) = true ∧
      e.Alike sender (l' ++ [a]) (l ++ [a]) ∧
      e.shownAt sender ⟨l', a⟩ = e.shownAt sender ⟨l, a⟩ := by
    intro t hactor hsender
    obtain ⟨t', hactor', hbare⟩ := h.symm.actor? hactor hsender
    have hsender' : t'.sender = sender := by rw [Task.congr_of_bare Task.sender hbare, hsender]
    obtain ⟨hnext, heffects⟩ := h.symm.move hactor hactor' hbare hsender
    refine ⟨by simp [hactor', hsender'], hnext.symm, ?_⟩
    rw [shownAt_of_actor hactor, shownAt_of_actor hactor', if_pos hsender, if_pos hsender',
      heffects]
  cases a with
  | sweep now =>
    refine ⟨rfl, h.sweep now, ?_⟩
    rw [shownAt_of_none rfl, shownAt_of_none rfl]
  | begin id op =>
    obtain ⟨hop, hid⟩ : op.sender = sender ∧ (e.after l).task? id = none := by
      simpa [concerns] using hconcerns
    -- A task that had the id in the run of the sender's steps would have it in the other run.
    have hid' : (e.after l').task? id = none := by
      by_contra hsome
      obtain ⟨u, hu⟩ := Option.ne_none_iff_exists'.1 hsome
      have hmem := EngineState.mem_of_task? hu
      obtain ⟨v, hv, hbare⟩ := h.counterpart hmem (halone u hmem)
      have hvid : v.id = id := by
        rw [Task.congr_of_bare Task.id hbare, EngineState.id_of_task? hu]
      rw [(e.sound_after l).task?_eq_some.2 ⟨hv, hvid⟩] at hid
      cases hid
    refine ⟨by simp [concerns, hop, hid'], h.begin hid' hid, ?_⟩
    rw [shownAt_of_none rfl, shownAt_of_none rfl]
  | enter _ | reply _ _ | cancel _ =>
    obtain ⟨t, hactor, hsender⟩ := Option.any_eq_true _ _ |>.1 hconcerns
    exact hmove t hactor (by simpa using hsender)

/-- **A sender is served alike with the others and without them.**  The run of its own steps, with
the sweeps, leaves the same for it, and it sees the same of each step. -/
theorem alike_stepsOf (sender : String) (l : List Action) :
    e.Alike sender (e.stepsOf sender l) l ∧
      e.observed sender (e.stepsOf sender l) = e.observed sender l ∧
      ∀ t ∈ (e.after (e.stepsOf sender l)).tasks, t.sender = sender := by
  induction l using List.reverseRecOn with
  | nil => exact ⟨⟨rfl, rfl⟩, rfl, nofun⟩
  | append_singleton l a ih =>
    obtain ⟨halike, hobserved, halone⟩ := ih
    rw [stepsOf_append]
    cases hconcerns : e.concerns sender ⟨l, a⟩ with
    | false =>
      rw [observed_append, hconcerns, if_neg (by simp), if_neg (by simp), List.append_nil,
        List.append_nil]
      exact ⟨halike.skip hconcerns, hobserved, halone⟩
    | true =>
      obtain ⟨hconcerns', hnext, hobserve⟩ := halike.own halone hconcerns
      rw [observed_append l, if_pos rfl, if_pos hconcerns, observed_append, if_pos hconcerns',
        hobserved, hobserve]
      refine ⟨hnext, rfl, alone_append halone ?_⟩
      rintro id op rfl
      simpa [concerns, and_comm] using (Bool.and_eq_true_iff.1 hconcerns).1

/-! ### Requests and broadcasts -/

end Engine

/-- Whether an effect is a request for a sender, or tells of its events. -/
def Effect.isFor (sender : String) : Effect → Bool
  | .publish s _ => s = sender
  | .call _ c => c.senderId = sender
  | _ => false

namespace Engine

variable {e : Engine} {sender : String} {l l' : List Action}

/-- Requests for a sender are made by its own tasks only, and nobody else publishes its events. -/
theorem filter_isFor_effects (sender : String) (m : Moment) :
    (e.effects m).filter (Effect.isFor sender) =
      (e.shownAt sender m).filter (Effect.isFor sender) := by
  by_cases hany : (e.actor? m).any (fun t => t.sender = sender) = true
  · rw [shownAt, if_pos hany]
  · rw [shownAt, if_neg hany, List.filter_nil, List.filter_eq_nil_iff]
    intro effect heffect hfor
    refine hany ?_
    cases effect with
    | done _ _ | swept _ => cases hfor
    | call id c =>
      obtain ⟨t, hactor, -, rfl⟩ := request_of_call heffect
      rw [Effect.isFor, senderId_request] at hfor
      rw [actor?, hactor]
      exact hfor
    | publish s events =>
      obtain ⟨t, r, hactor, -, hop, rfl, -⟩ := save_of_publish heffect
      rw [actor?, hactor, Option.any_some, sender_of_save hop]
      exact hfor

/-- All requests and broadcasts of a sender are among what it observes. -/
theorem filter_isFor_run (sender : String) (l : List Action) :
    (e.run {} l).2.filter (Effect.isFor sender) =
      (e.observed sender l).flatMap fun o => o.effects.filter (Effect.isFor sender) := by
  rw [run_effects]
  induction l using List.reverseRecOn with
  | nil => rfl
  | append_singleton l a ih =>
    rw [moments_append, List.flatMap_append, List.filter_append, ih, observed_append,
      List.flatMap_append, List.flatMap_singleton, filter_isFor_effects]
    refine congrArg _ ?_
    split
    · exact (List.flatMap_singleton _ _).symm
    · rename_i hnot
      rw [shownAt, if_neg]
      · rfl
      · intro hany
        refine hnot ?_
        cases a with
        | begin _ _ | sweep _ => cases hany
        | enter _ | reply _ _ | cancel _ => exact hany

/-- **Senders do not interfere.**  Let two runs contain the same steps of a sender's tasks, with the
same replies, and the same sweeps, in the same order, and any steps of others.  The sender sees the
same of each of its steps in both: its requests, its outcomes, what is published of it, and what is
cached for it afterwards.  In the end the same is cached for it, and its tasks can do the same
next. -/
theorem unaffected_by_others (h : e.stepsOf sender l = e.stepsOf sender l') :
    e.observed sender l = e.observed sender l' ∧
    (e.after l).cache.entry sender = (e.after l').cache.entry sender ∧
    (e.run {} l).2.filter (Effect.isFor sender) = (e.run {} l').2.filter (Effect.isFor sender) ∧
    ∀ a, (e.actor? ⟨l, a⟩).any (fun t => t.sender = sender) =
      (e.actor? ⟨l', a⟩).any fun t => t.sender = sender := by
  obtain ⟨halike, hobserved, -⟩ := alike_stepsOf (e := e) sender l
  obtain ⟨halike', hobserved', -⟩ := alike_stepsOf (e := e) sender l'
  rw [← h] at halike' hobserved'
  have hboth := halike.symm.trans halike'
  have hobserved : e.observed sender l = e.observed sender l' := hobserved.symm.trans hobserved'
  refine ⟨hobserved, hboth.entry, ?_, fun a => hboth.any_actor? a⟩
  rw [filter_isFor_run, filter_isFor_run, hobserved]

/-! ### The same steps in two runs -/

/-- A save and a retrieve, with a sweep while the save waits. -/
def annAlone : List Action :=
  [.begin 0 (.save (conversation [1])), .enter 0, .sweep 5,
    .reply 0 (.written (.ok ⟨some 0, some 1⟩)), .begin 1 (.retrieve "ann"), .enter 1,
    .reply 1 (.fetched (.ok (some ⟨conversation [2], some 1, some 2⟩)))]

/-- The same while another sender retrieves, saves, is dropped and fails. -/
def annAmongOthers : List Action :=
  [.begin 7 (.retrieve "bob"), .begin 0 (.save (conversation [1])), .enter 7, .enter 0,
    .begin 8 (.save { senderId := "bob" }), .sweep 5, .cancel 7, .enter 8,
    .reply 0 (.written (.ok ⟨some 0, some 1⟩)), .begin 1 (.retrieve "ann"),
    .reply 8 (.written (.error (.timeout 30))), .enter 1,
    .reply 1 (.fetched (.ok (some ⟨conversation [2], some 1, some 2⟩)))]

/-- The two runs are the same to the sender that they have in common. -/
theorem annAmongOthers_unaffected :
    plainEngine.stepsOf "ann" annAlone = plainEngine.stepsOf "ann" annAmongOthers ∧
    plainEngine.observed "ann" annAlone = plainEngine.observed "ann" annAmongOthers ∧
    (plainEngine.after annAlone).cache.entry "ann" =
      (plainEngine.after annAmongOthers).cache.entry "ann" := by
  have hsteps : plainEngine.stepsOf "ann" annAlone =
      plainEngine.stepsOf "ann" annAmongOthers := by rfl
  obtain ⟨hobserved, hentry, -⟩ := unaffected_by_others hsteps
  exact ⟨hsteps, hobserved, hentry⟩

end Engine

end DialogueStore
