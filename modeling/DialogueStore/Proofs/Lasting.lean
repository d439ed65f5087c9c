/-
Properties that last while engines share a remote store.

What an engine has cached for a sender is to be compared with the sender's log,
and both change while requests and replies are on their way.  `Lasting` is what
such a comparison needs: an empty entry satisfies it, it stays when the log grows,
and it is kept by what the remote store answers.  `Lasting.upholds` takes it
through everything that happens in a world.

Design notes: a task that waits for a reply holds its sender's lock, and the entry
stays as it is from the request to the reply.  So the comparison is made at the
moment at which the store takes the request, for the entry that the reply will
leave, and from then on it is only the log that grows.
-/
import DialogueStore.Proofs.World

namespace DialogueStore

/-- The answers of the remote store keep a property of what is cached for a sender beside the
sender's log, where something else is known of the requests. -/
structure Lasting (e : Engine) (P : Entry → List Event → Prop)
    (Q : Entry → Operation → List Event → Prop) : Prop where
  empty : ∀ log, P {} log
  append : ∀ {x log} more, P x log → P x (log ++ more)
  carryOut : ∀ {x op log} (verdict : Verdict), P x log → Q x op log →
    P (e.conclude x op (verdict.carryOut log (e.request x op)).reply).1
      (verdict.carryOut log (e.request x op)).log

/-- Whenever the remote store takes a request of an engine's for a sender, this is known of it. -/
def World.Asked {ι : Type} (w : World ι) (i : ι) (sender : String)
    (Q : Entry → Operation → List Event → Prop) : Prop :=
  ∀ d ∈ w.dealings, d.engine = i → d.operation.sender = sender → Q d.entry d.operation d.log

/-- A property holds of what an engine has cached for a sender, and it will hold when a reply
arrives. -/
structure World.Upholds {ι : Type} (e : Engine) (P : Entry → List Event → Prop) (w : World ι)
    (i : ι) (sender : String) : Prop where
  entry : P ((w.engines i).cache.entry sender) (w.logs sender)
  coming : ∀ id t call r, (w.engines i).caller? id = some (t, call) → t.sender = sender →
    w.replies i id = some r →
    P (e.conclude ((w.engines i).cache.entry sender) t.operation r.reply).1 r.log

namespace World

variable {ι : Type} [DecidableEq ι] {e : ι → Engine} {w : World ι} {i : ι} {sender : String}
  {P : Entry → List Event → Prop} {Q : Entry → Operation → List Event → Prop}

theorem Asked.of_step {h : Happening ι} (hQ : (w.step e h).Asked i sender Q) :
    w.Asked i sender Q :=
  fun d hd => hQ d (mem_dealings_step h hd)

end World

namespace Lasting

variable {ι : Type} [DecidableEq ι] {e : ι → Engine} {w : World ι} {i : ι} {sender : String}
  {P : Entry → List Event → Prop} {Q : Entry → Operation → List Event → Prop}

omit [DecidableEq ι] in
theorem of_prefix (hP : Lasting (e i) P Q) {x : Entry} {log log' : List Event}
    (hlog : log <+: log') (h : P x log) : P x log' := by
  obtain ⟨more, rfl⟩ := hlog
  exact hP.append more h

/-- Where the store is not asked, and the entry stays as it is, the property stays. -/
theorem keep (hP : Lasting (e i) P Q) (hw : w.Answered) (hs : ∀ i, (w.engines i).Sound (e i))
    (hold : w.Upholds (e i) P i sender) {h : Happening ι}
    (hserve : ∀ i id verdict, h ≠ .serve i id verdict)
    (hentry : ((w.step e h).engines i).cache.entry sender =
      (w.engines i).cache.entry sender) : (w.step e h).Upholds (e i) P i sender := by
  refine ⟨?_, fun id t call r hcaller hsender hr => ?_⟩
  · rw [hentry]
    exact hP.of_prefix (World.prefix_logs h sender) hold.entry
  · obtain ⟨hcaller, hr⟩ := World.caller?_before hw hs hserve hcaller hr
    rw [hentry]
    exact hold.coming id t call r hcaller hsender hr

/-- The store takes a request, and its reply will keep the property. -/
theorem serve (hP : Lasting (e i) P Q) (hs : ∀ i, (w.engines i).Sound (e i))
    (hold : w.Upholds (e i) P i sender) {j : ι} {k : Nat} {verdict : Verdict}
    (hQ : (w.step e (.serve j k verdict)).Asked i sender Q) :
    (w.step e (.serve j k verdict)).Upholds (e i) P i sender := by
  have hlogs := World.prefix_logs (e := e) (w := w) (.serve j k verdict) sender
  rcases World.step_serve (e := e) (w := w) j k verdict with heq | ⟨u, call, hcaller, -, heq⟩
  · rw [heq]
    exact hold
  · rw [heq] at hQ hlogs ⊢
    refine ⟨hP.of_prefix hlogs hold.entry, fun id t c r ht hsender hr => ?_⟩
    have hreplies : (w.setReply j k (some (verdict.carryOut (w.logs u.sender) call))).replies
        i id = some r := hr
    rw [World.setReply_replies] at hreplies
    split at hreplies
    · -- This task is answered by the store, as the store is now.
      rename_i hik
      obtain ⟨rfl, rfl⟩ := hik
      cases hreplies
      obtain ⟨rfl, rfl⟩ := Prod.mk.inj (Option.some.inj (hcaller.symm.trans ht))
      subst hsender
      have hcall := ((hs i).call_eq hcaller).1
      rw [hcall]
      exact hP.carryOut verdict hold.entry
        (hQ _ (List.mem_append_right _ (List.mem_singleton.2 rfl)) rfl rfl)
    · -- The request is not this task's.
      exact hold.coming id t c r ht hsender hreplies

/-- A reply arrives. -/
theorem deliver (hP : Lasting (e i) P Q) (hw : w.Answered)
    (hs : ∀ i, (w.engines i).Sound (e i)) (hold : w.Upholds (e i) P i sender) (j : ι) (k : Nat) :
    (w.step e (.deliver j k)).Upholds (e i) P i sender := by
  cases hr : w.replies j k with
  | none =>
    rw [World.step, hr]
    exact hold
  | some r =>
    obtain ⟨t, call, hcaller, ⟨verdict, log, rfl⟩, hlog⟩ := hw j k r hr
    have hentry := World.entry_deliver (e := e) hr
      ((hs j).actor?_carryOut hcaller verdict log) i sender
    by_cases hmine : i = j ∧ t.sender = sender
    · obtain ⟨rfl, rfl⟩ := hmine
      refine ⟨?_, fun id u c r' hu husender hr' => ?_⟩
      · rw [hentry, if_pos ⟨rfl, rfl⟩]
        exact hP.of_prefix (hlog.trans (World.prefix_logs _ _))
          (hold.coming k t call _ hcaller rfl hr)
      · exact absurd hr' (World.quiet_of_deliver hw hs hcaller hr id u c r' hu husender)
    · exact hP.keep hw hs hold (by simp) (by rw [hentry, if_neg hmine])

/-- An engine acts by itself. -/
theorem act (hP : Lasting (e i) P Q) (htest : (e i).isTest sender = false)
    (l : List (Happening ι)) (hold : (World.after e l).Upholds (e i) P i sender) (j : ι)
    (a : Action) : ((World.after e l).step e (.act j a)).Upholds (e i) P i sender := by
  rcases World.entry_act htest l j a with hentry | ⟨hentry, hquiet⟩
  · exact hP.keep (World.answered_after l) (World.sound_after l) hold (by simp) hentry
  · refine ⟨?_, fun id t call r hcaller hsender hr => ?_⟩
    · rw [hentry]
      exact hP.empty _
    · exact absurd hr (hquiet id t call r hcaller hsender)

/-- **A property that the store's answers keep holds throughout.** -/
theorem upholds (hP : Lasting (e i) P Q) (htest : (e i).isTest sender = false)
    {happenings : List (Happening ι)} (hQ : (World.after e happenings).Asked i sender Q) :
    (World.after e happenings).Upholds (e i) P i sender := by
  induction happenings using List.reverseRecOn with
  | nil => exact ⟨hP.empty _, fun id t call r hcaller => by cases hcaller⟩
  | append_singleton l h ih =>
    rw [World.after_append] at hQ ⊢
    have hold := ih hQ.of_step
    have hw := World.answered_after (e := e) l
    have hs := World.sound_after (e := e) l
    cases h with
    | act j a => exact hP.act htest l hold j a
    | serve j k verdict => exact hP.serve hs hold hQ
    | deliver j k => exact hP.deliver hw hs hold j k
    | append key events => exact hP.keep hw hs hold (by simp) rfl

end Lasting

namespace World

variable {ι : Type} [DecidableEq ι] {e : ι → Engine} {i : ι} {happenings : List (Happening ι)}
  {id : Nat} {t : Task} {call : Call} {r : LogReply} {snapshot : Snapshot}

/-- A snapshot on its way is what a retrieve has fetched, and when it arrives the retrieve returns
what is cached then. -/
theorem retrieved_of_snapshot
    (hcaller : ((after e happenings).engines i).caller? id = some (t, call))
    (hr : (after e happenings).replies i id = some r)
    (hreply : r.reply = .fetched (.ok (some snapshot))) :
    ∃ frame, t.operation = .retrieve t.sender ∧
      snapshot = snapshotOf r.log frame ((e i).fetchRequest t.sender
        (((after e happenings).engines i).cache.entry t.sender).lastCursor) ∧
      ((e i).step ((after e happenings).engines i) (.reply id r.reply)).2 =
        [.done id (.retrieved ((((after e happenings).engines i).cache.entry t.sender).fetched (e i)
          t.sender r.log frame).normal)] := by
  have hs := sound_after (e := e) happenings i
  -- The reply on its way was made for this request when the store carried it out.
  obtain ⟨u, c, hcaller', ⟨verdict, log, rfl⟩, -⟩ := answered_after (e := e) happenings i id r hr
  obtain ⟨rfl, rfl⟩ := Prod.mk.inj (Option.some.inj (hcaller.symm.trans hcaller'))
  have heffects := (Engine.step_reply_left (e := e i)
    (hs.actor?_carryOut hcaller verdict log)).effects_eq
  rw [(hs.call_eq hcaller).1] at hreply heffects ⊢
  obtain ⟨sender, frame, hop, rfl⟩ := Verdict.granted_of_snapshot hreply
  obtain rfl := Engine.sender_of_retrieve hop
  rw [hop] at hreply heffects ⊢
  refine ⟨frame, rfl, ?_, ?_⟩
  · cases hreply
    rfl
  · rw [heffects, Engine.leave, hop,
      EngineState.id_of_task? (EngineState.caller?_eq_some.1 hcaller).1]
    rfl

/-- A retrieve that is answered by a snapshot returns the events of an entry that has the property,
and that has its cursor at the end of the log. -/
theorem Upholds.retrieved {sender : String} {P : Entry → List Event → Prop}
    (hold : (after e happenings).Upholds (e i) P i sender)
    (hcaller : ((after e happenings).engines i).caller? id = some (t, call))
    (hsender : t.sender = sender) (hr : (after e happenings).replies i id = some r)
    (hreply : r.reply = .fetched (.ok (some snapshot))) :
    ∃ record x, ((e i).step ((after e happenings).engines i) (.reply id r.reply)).2 =
        [.done id (.retrieved (some record))] ∧
      x.events = record.events ∧ x.lastCursor.lastIndex = (r.log.length : Int) - 1 ∧ P x r.log := by
  have hcoming := hold.coming id t call r hcaller hsender hr
  obtain ⟨frame, hop, rfl, heffects⟩ := retrieved_of_snapshot hcaller hr hreply
  subst hsender
  rw [hop, hreply] at hcoming
  exact ⟨_, _, heffects, rfl, Entry.lastIndex_fetched _ _ _ r.log frame, hcoming⟩

end World

end DialogueStore
