/-
Events that come twice.

A fetch brings what the log has after the cursor, and it is added to what is cached.
No event is cached twice then if none of the cached events stands in the log after the
cursor.  A write that the store has carried out and whose acknowledgement is lost breaks
this: its events are in the log and in the cache, and the cursor stays in front of them,
so that the next fetch brings them once more (`World.brought_again`).  Nothing else does:
as long as saves add new events, no log gets an event twice and no acknowledgement is
lost, every fetch brings what is not cached (`World.brings_what_is_new`).

Design notes: from the time at which a write is carried out to the arrival of its
acknowledgement the log is ahead of the cache.  So the comparison of the cache with the
log (`Entry.Accounted`) is made where no acknowledgement is on its way, and where one is,
for the entry that it will leave.
-/
import DialogueStore.Proofs.Lasting
import DialogueStore.Proofs.Records

namespace DialogueStore

/-! ### One entry beside the log -/

namespace Entry

variable {e : Engine} {own : Event → Prop} {x y : Entry} {log log' : List Event} {r : Record}

/-- No event is cached twice, and each one is in the log up to the cursor, or it is one of the
engine's own that has not got into the log. -/
structure Accounted (own : Event → Prop) (x : Entry) (log : List Event) : Prop where
  nodup : x.events.Nodup
  known : ∀ event ∈ x.events, event ∈ log.take x.passed ∨ own event ∧ event ∉ log

/-- A record that goes on with what is cached, by events of the engine's own that are new. -/
structure Extends (own : Event → Prop) (x : Entry) (log : List Event) (r : Record) : Prop where
  cached : x.events <+: r.events
  nodup : r.events.Nodup
  added : ∀ event ∈ r.events.drop x.events.length, own event ∧ event ∉ log

/-- What is asked of a request for nothing to come twice.  A log that is fetched from has no event
twice itself. -/
def Adding (own : Event → Prop) (x : Entry) : Operation → List Event → Prop
  | .save r, log => x.Extends own log r
  | .retrieve _, log => log.Nodup

/-- The events of a record that goes on with what is cached. -/
theorem Extends.mem_cases (h : x.Extends own log r) {event : Event} (hevent : event ∈ r.events) :
    event ∈ x.events ∨ own event ∧ event ∉ log := by
  obtain ⟨added, hadded⟩ := h.cached
  rw [← hadded, List.mem_append] at hevent
  refine hevent.imp_right fun hmem => h.added event ?_
  rw [← hadded, List.drop_left]
  exact hmem

namespace Accounted

theorem empty (log : List Event) : Accounted own {} log := ⟨List.nodup_nil, nofun⟩

/-- Others may add to the log what is not the engine's own. -/
theorem grow (h : x.Accounted own log) (hlog : log <+: log')
    (hown : ∀ event ∈ log', own event → event ∈ log) : x.Accounted own log' := by
  refine ⟨h.nodup, fun event hevent => ?_⟩
  rcases h.known event hevent with hmem | ⟨hmine, hnot⟩
  · obtain ⟨more, rfl⟩ := hlog
    rw [List.take_append]
    exact .inl (List.mem_append_left _ hmem)
  · exact .inr ⟨hmine, fun hmem => hnot (hown event hmem hmine)⟩

/-- Nothing that is cached comes after the cursor. -/
theorem not_mem_drop (h : x.Accounted own log) (hnodup : log.Nodup) {event : Event}
    (hevent : event ∈ x.events) : event ∉ log.drop x.passed := by
  rcases h.known event hevent with hmem | ⟨-, hnot⟩
  · exact fun hdrop => List.disjoint_take_drop hnodup le_rfl hmem hdrop
  · exact fun hdrop => hnot (List.mem_of_mem_drop hdrop)

/-- With the cursor at the end of the log. -/
theorem of_end (hnodup : y.events.Nodup) (hend : y.lastCursor.lastIndex = (log.length : Int) - 1)
    (hknown : ∀ event ∈ y.events, event ∈ log ∨ own event) : y.Accounted own log := by
  have hpassed : y.passed = log.length := by
    rw [passed, hend]
    omega
  -- Whatever is in the log is before the cursor then.
  refine ⟨hnodup, fun event hevent => ?_⟩
  rw [hpassed, List.take_length]
  by_cases hlog : event ∈ log
  · exact .inl hlog
  · exact .inr ⟨(hknown event hevent).resolve_left hlog, hlog⟩

/-- A fetch brings what is not cached, or it takes the place of all that is. -/
theorem fetched (h : x.Accounted own log) (hnodup : log.Nodup) (sender : String) (frame : Record) :
    (x.fetched e sender log frame).Accounted own log := by
  have hend := lastIndex_fetched x e sender log frame
  -- A partial snapshot is appended, a windowed one replaces; a suffix of the log has no repetition
  -- either way.
  rcases events_fetched x e sender log frame with hevents | ⟨hsuffix, -⟩
  · refine of_end ?_ hend ?_
    · rw [hevents]
      have hdrop : (log.drop x.passed).Nodup := hnodup.sublist (List.drop_sublist _ _)
      exact h.nodup.append hdrop fun event hevent => h.not_mem_drop hnodup hevent
    · intro event hevent
      rw [hevents, List.mem_append] at hevent
      rcases hevent with hevent | hevent
      · exact (h.known event hevent).imp List.mem_of_mem_take And.left
      · exact .inl (List.mem_of_mem_drop hevent)
  · exact of_end (hnodup.sublist hsuffix.sublist) hend fun event hevent =>
      .inl (hsuffix.subset hevent)

/-- An acknowledged write. -/
theorem acknowledged (h : x.Accounted own log) (hr : x.Extends own log r) {sent : List Event}
    (hevents : y.events = r.events)
    (hend : y.lastCursor.lastIndex = ((log ++ sent).length : Int) - 1) :
    y.Accounted own (log ++ sent) := by
  refine of_end ?_ hend ?_
  · rw [hevents]
    exact hr.nodup
  · intro event hevent
    rw [hevents] at hevent
    -- An event of the saved record was cached before, or it is new and one of our own.
    rcases hr.mem_cases hevent with hcached | ⟨hmine, -⟩
    · refine (h.known event hcached).imp (fun hmem => ?_) And.left
      exact List.mem_append_left _ (List.mem_of_mem_take hmem)
    · exact .inr hmine

/-- A write that fails and is not carried out. -/
theorem failed (h : x.Accounted own log) (hr : x.Extends own log r) (hevents : y.events = r.events)
    (hcursor : y.lastCursor = x.lastCursor) : y.Accounted own log := by
  refine ⟨?_, fun event hevent => ?_⟩
  · rw [hevents]
    exact hr.nodup
  · rw [hevents] at hevent
    rw [passed, hcursor]
    exact (hr.mem_cases hevent).elim (h.known event) .inr

/-- What the store answers keeps all events accounted for, unless it carries out a write and reports
its failure. -/
theorem carryOut {op : Operation} {verdict : Verdict} (h : x.Accounted own log)
    (hadding : x.Adding own op log)
    (hkept : ∀ r cause, op = .save r → verdict ≠ .failed true cause) :
    (e.conclude x op (verdict.carryOut log (e.request x op)).reply).1.Accounted own
      (verdict.carryOut log (e.request x op)).log := by
  cases op with
  | retrieve sender =>
    rcases verdict with (_ | frame) | _
    · exact h
    · exact h.fetched hadding sender frame
    · exact h
  | save r =>
    -- An insert and an update both append to the log; they differ in what they send.
    obtain ⟨sent, -, hcarryOut⟩ := verdict.carryOut_save log e x r
    rw [hcarryOut]
    cases verdict with
    | granted frame => exact h.acknowledged hadding rfl (lastIndex_logEnd _)
    | failed applied cause =>
      cases applied with
      -- The case that is excluded: the write is applied, and its acknowledgement is lost.
      | true => exact absurd rfl (hkept r cause rfl)
      | false => exact h.failed hadding rfl rfl

end Accounted

variable (log) in
/-- A request leaves the log as it is, unless it is acknowledged, or it is a write that is carried
out and reported as a failure. -/
theorem log_carryOut {op : Operation} {verdict : Verdict}
    (hkept : ∀ r cause, op = .save r → verdict ≠ .failed true cause)
    (hreply : ∀ c, (verdict.carryOut log (e.request x op)).reply ≠ .written (.ok c)) :
    (verdict.carryOut log (e.request x op)).log = log := by
  cases op with
  | retrieve sender => cases verdict <;> rfl
  | save r =>
    obtain ⟨sent, -, hcarryOut⟩ := verdict.carryOut_save log e x r
    rw [hcarryOut] at hreply ⊢
    cases verdict with
    | granted frame => exact absurd rfl (hreply _)
    | failed applied cause =>
      cases applied with
      | true => exact absurd rfl (hkept r cause rfl)
      | false => rfl

end Entry

namespace World

variable {ι : Type} [DecidableEq ι] {e : ι → Engine} {w w' : World ι} {i : ι} {sender : String}
  {own : Event → Prop}

/-! ### Acknowledgements -/

variable (w i sender) in
/-- The acknowledgement of a write for a sender is on its way to a task. -/
def AcknowledgesTo (id : Nat) : Prop :=
  ∃ t call r c, (w.engines i).caller? id = some (t, call) ∧ t.sender = sender ∧
    w.replies i id = some r ∧ r.reply = .written (.ok c)

variable (w i sender) in
/-- The acknowledgement of a write for a sender is lost: the write is carried out and reported as a
failure, or the task is dropped while it waits for the acknowledgement. -/
def Loses (h : Happening ι) : Prop :=
  (∃ id cause t call r, h = .serve i id (.failed true cause) ∧
    (w.engines i).caller? id = some (t, call) ∧ t.sender = sender ∧ t.operation = .save r) ∨
  ∃ id, h = .act i (.cancel id) ∧ w.AcknowledgesTo i sender id

/-- All that an engine has cached for a sender is accounted for, as long as no acknowledgement is on
its way, and all that will be when a reply arrives. -/
structure Accounts (w : World ι) (e : ι → Engine) (own : Event → Prop) (i : ι)
    (sender : String) : Prop where
  nodup : ((w.engines i).cache.entry sender).events.Nodup
  entry : (∀ id, ¬ w.AcknowledgesTo i sender id) →
    ((w.engines i).cache.entry sender).Accounted own (w.logs sender)
  coming : ∀ id t call r, (w.engines i).caller? id = some (t, call) → t.sender = sender →
    w.replies i id = some r →
    ((e i).conclude ((w.engines i).cache.entry sender) t.operation r.reply).1.Accounted own
      (w.logs sender)

namespace Accounts

omit [DecidableEq ι] in
/-- Where the entry stays, and only others add to the log, everything stays accounted for. -/
theorem keep (hold : w.Accounts e own i sender)
    (hentry : (w'.engines i).cache.entry sender = (w.engines i).cache.entry sender)
    (hbefore : ∀ id t call r, (w'.engines i).caller? id = some (t, call) → t.sender = sender →
      w'.replies i id = some r →
      (w.engines i).caller? id = some (t, call) ∧ w.replies i id = some r)
    (hack : ∀ id, w.AcknowledgesTo i sender id → w'.AcknowledgesTo i sender id)
    (hlog : w.logs sender <+: w'.logs sender)
    (hown : ∀ event ∈ w'.logs sender, own event → event ∈ w.logs sender) :
    w'.Accounts e own i sender := by
  -- The log may only grow here, and by no event of this engine.
  refine ⟨?_, fun hnone => ?_, fun id t call r hcaller hsender hr => ?_⟩
  · rw [hentry]
    exact hold.nodup
  · rw [hentry]
    exact (hold.entry fun id h => hnone id (hack id h)).grow hlog hown
  · obtain ⟨hcaller, hr⟩ := hbefore id t call r hcaller hsender hr
    rw [hentry]
    exact (hold.coming id t call r hcaller hsender hr).grow hlog hown

/-- An acknowledgement stays on its way until it arrives, if it is not lost. -/
theorem acknowledgesTo_step (hs : ∀ i, (w.engines i).Sound (e i)) {h : Happening ι}
    (hkept : ¬ w.Loses i sender h) {id : Nat} (hdeliver : h ≠ .deliver i id)
    (hack : w.AcknowledgesTo i sender id) : (w.step e h).AcknowledgesTo i sender id := by
  have hcancel : h ≠ .act i (.cancel id) := by
    rintro rfl
    exact hkept (.inr ⟨id, rfl, hack⟩)
  obtain ⟨t, call, r, c, hcaller, hsender, hr, hreply⟩ := hack
  obtain ⟨hcaller, hr⟩ := on_its_way_step hs hcaller hr hdeliver hcancel
  exact ⟨t, call, r, c, hcaller, hsender, hr, hreply⟩

/-- The same where the store is not asked. -/
theorem keep_step (hw : w.Answered) (hs : ∀ i, (w.engines i).Sound (e i))
    (hold : w.Accounts e own i sender) {h : Happening ι}
    (hserve : ∀ i id verdict, h ≠ .serve i id verdict)
    (hdeliver : ∀ id, w.AcknowledgesTo i sender id → h ≠ .deliver i id)
    (hentry : ((w.step e h).engines i).cache.entry sender = (w.engines i).cache.entry sender)
    (hkept : ¬ w.Loses i sender h)
    (hown : ∀ event ∈ (w.step e h).logs sender, own event → event ∈ w.logs sender) :
    (w.step e h).Accounts e own i sender :=
  hold.keep hentry (fun _ _ _ _ hcaller _ hr => caller?_before hw hs hserve hcaller hr)
    (fun id hack => acknowledgesTo_step hs hkept (hdeliver id hack) hack) (prefix_logs h sender)
    hown

/-- An engine acts by itself. -/
theorem act (htest : (e i).isTest sender = false) (l : List (Happening ι)) {j : ι} {a : Action}
    (hold : (after e l).Accounts e own i sender) (hkept : ¬ (after e l).Loses i sender (.act j a))
    (hown : ∀ event ∈ ((after e l).step e (.act j a)).logs sender, own event →
      event ∈ (after e l).logs sender) :
    ((after e l).step e (.act j a)).Accounts e own i sender := by
  -- Either the entry stays, or it is evicted while no reply is on its way.
  rcases entry_act htest l j a with hentry | ⟨hentry, hquiet⟩
  · exact hold.keep_step (answered_after l) (sound_after l) (by simp) (by simp) hentry hkept hown
  · refine ⟨?_, fun _ => ?_, fun id t call r hcaller hsender hr => ?_⟩
    · rw [hentry]
      exact List.nodup_nil
    · rw [hentry]
      exact .empty _
    · exact absurd hr (hquiet id t call r hcaller hsender)

/-- A reply arrives. -/
theorem deliver (hw : w.Answered) (hs : ∀ i, (w.engines i).Sound (e i))
    (hold : w.Accounts e own i sender) (j : ι) (k : Nat) :
    (w.step e (.deliver j k)).Accounts e own i sender := by
  cases hr : w.replies j k with
  | none =>
    rw [step, hr]
    exact hold
  | some r =>
    obtain ⟨t, call, hcaller, ⟨verdict, log, rfl⟩, -⟩ := hw j k r hr
    have hentry := entry_deliver (e := e) hr ((hs j).actor?_carryOut hcaller verdict log) i sender
    have hlogs : (w.step e (.deliver j k)).logs = w.logs := by
      rw [step, hr]
      rfl
    by_cases hmine : i = j ∧ t.sender = sender
    · obtain ⟨rfl, rfl⟩ := hmine
      have hcoming := hold.coming k t call _ hcaller rfl hr
      rw [if_pos ⟨rfl, rfl⟩] at hentry
      refine ⟨?_, fun _ => ?_, fun id u c r' hu husender hr' => ?_⟩
      · rw [hentry]
        exact hcoming.nodup
      · rw [hentry, hlogs]
        exact hcoming
      · exact absurd hr' (quiet_of_deliver hw hs hcaller hr id u c r' hu husender)
    · -- The reply is to another engine or about another sender.
      rw [if_neg hmine] at hentry
      refine hold.keep_step hw hs (by simp) ?_ hentry (by simp [Loses])
        (by rw [hlogs]; exact fun _ h _ => h)
      rintro id ⟨u, c, r', -, hu, husender, -, -⟩ heq
      obtain ⟨rfl, rfl⟩ : j = i ∧ k = id := by simpa using heq
      obtain ⟨rfl, -⟩ := Prod.mk.inj (Option.some.inj (hcaller.symm.trans hu))
      exact hmine ⟨rfl, husender⟩

/-- The store takes a request that is about the sender. -/
theorem serve_own (hs : ∀ i, (w.engines i).Sound (e i)) {k : Nat} {t : Task} {call : Call}
    {verdict : Verdict} (hold : w.Accounts e own i t.sender)
    (hcaller : (w.engines i).caller? k = some (t, call)) (hnone : w.replies i k = none)
    (hadding : ((w.engines i).cache.entry t.sender).Adding own t.operation (w.logs t.sender))
    (happlied : ∀ r cause, t.operation = .save r → verdict ≠ .failed true cause) :
    (w.serve i k t (verdict.carryOut (w.logs t.sender) call)).Accounts e own i t.sender := by
  -- No other task waits for a reply, and so no acknowledgement is on its way.
  have hx : ((w.engines i).cache.entry t.sender).Accounted own (w.logs t.sender) := by
    refine hold.entry fun id => ?_
    rintro ⟨u, c, r, cursor, hu, husender, hr, -⟩
    obtain ⟨rfl, -⟩ := (hs i).eq_of_caller hcaller hu husender
    rw [hnone] at hr
    cases hr
  have hnew := hx.carryOut (e := e i) hadding happlied
  have hkeeps := Entry.log_carryOut (e := e i) (x := (w.engines i).cache.entry t.sender)
    (w.logs t.sender) happlied
  rw [← ((hs i).call_eq hcaller).1] at hnew hkeeps
  generalize verdict.carryOut (w.logs t.sender) call = answer at hnew hkeeps ⊢
  have hlogs : (w.serve i k t answer).logs t.sender = answer.log := if_pos rfl
  have hreplies : (w.serve i k t answer).replies i k = some answer := if_pos ⟨rfl, rfl⟩
  refine ⟨hold.nodup, fun hquiet => ?_, fun id u c r hu husender hr => ?_⟩
  · have hunwritten : ∀ cursor, answer.reply ≠ .written (.ok cursor) := fun cursor hreply =>
      hquiet k ⟨t, call, answer, cursor, hcaller, rfl, hreplies, hreply⟩
    rw [hlogs, hkeeps hunwritten]
    exact hx
  · obtain ⟨rfl, rfl⟩ := (hs i).eq_of_caller hcaller hu husender
    rw [hreplies] at hr
    cases hr
    rw [hlogs]
    exact hnew

/-- The store takes a request. -/
theorem serve (hs : ∀ i, (w.engines i).Sound (e i)) (hold : w.Accounts e own i sender) {j : ι}
    {k : Nat} {verdict : Verdict}
    (hadding : (w.step e (.serve j k verdict)).Asked i sender (Entry.Adding own))
    (hkept : ¬ w.Loses i sender (.serve j k verdict))
    (hown : j ≠ i → ∀ event ∈ (w.step e (.serve j k verdict)).logs sender, own event →
      event ∈ w.logs sender) :
    (w.step e (.serve j k verdict)).Accounts e own i sender := by
  have hack : ∀ id, w.AcknowledgesTo i sender id →
      (w.step e (.serve j k verdict)).AcknowledgesTo i sender id :=
    fun id hack => acknowledgesTo_step hs hkept (by simp) hack
  have hlog := prefix_logs (e := e) (w := w) (.serve j k verdict) sender
  rcases step_serve (e := e) (w := w) j k verdict with heq | ⟨t, call, hcaller, hnone, heq⟩
  · rw [heq]
    exact hold
  rw [heq] at hadding hack hlog hown ⊢
  by_cases hmine : j = i ∧ t.sender = sender
  · obtain ⟨rfl, rfl⟩ := hmine
    refine hold.serve_own hs hcaller hnone ?_ ?_
    · exact hadding _ (List.mem_append_right _ (List.mem_singleton.2 rfl)) rfl rfl
    · rintro r cause hop rfl
      exact hkept (.inl ⟨k, cause, t, call, r, rfl, hcaller, rfl, hop⟩)
  · -- The request is another engine's or about another sender.
    refine hold.keep rfl (fun id u c r hu husender hr => ⟨hu, ?_⟩) hack hlog ?_
    · refine (if_neg ?_).symm.trans hr
      rintro ⟨rfl, rfl⟩
      obtain ⟨rfl, -⟩ := Prod.mk.inj (Option.some.inj (hcaller.symm.trans hu))
      exact hmine ⟨rfl, husender⟩
    · by_cases hij : j = i
      · have hne : sender ≠ t.sender := fun hsender => hmine ⟨hij, hsender.symm⟩
        have hlogs : (w.serve j k t (verdict.carryOut (w.logs t.sender) call)).logs sender =
            w.logs sender := if_neg hne
        rw [hlogs]
        exact fun _ hevent _ => hevent
      · exact hown hij

end Accounts

/-! ### Runs -/

/-- In a run, an engine's saves of a sender go on with what is cached and add new events of its own,
which nobody else adds, and no acknowledgement of them is lost.  A log that is fetched from has no
event twice. -/
structure Undisturbed (e : ι → Engine) (own : Event → Prop) (i : ι) (sender : String)
    (happenings : List (Happening ι)) : Prop where
  adding : (after e happenings).Asked i sender (Entry.Adding own)
  others : ∀ l h, l ++ [h] <+: happenings → (∀ id verdict, h ≠ .serve i id verdict) →
    ∀ event ∈ (after e (l ++ [h])).logs sender, own event → event ∈ (after e l).logs sender
  kept : ∀ l h, l ++ [h] <+: happenings → ¬ (after e l).Loses i sender h

theorem Undisturbed.of_append {l : List (Happening ι)} {h : Happening ι}
    (hrun : Undisturbed e own i sender (l ++ [h])) : Undisturbed e own i sender l := by
  refine ⟨?_, fun past a hp => ?_, fun past a hp => ?_⟩
  · have hadding := hrun.adding
    rw [after_append] at hadding
    exact hadding.of_step
  · exact hrun.others past a (hp.trans (List.prefix_append _ _))
  · exact hrun.kept past a (hp.trans (List.prefix_append _ _))

/-- In an undisturbed run everything is accounted for. -/
theorem accounts_after (htest : (e i).isTest sender = false) {happenings : List (Happening ι)}
    (hrun : Undisturbed e own i sender happenings) :
    (after e happenings).Accounts e own i sender := by
  induction happenings using List.reverseRecOn with
  | nil => exact ⟨List.nodup_nil, fun _ => .empty _, fun id t call r hcaller => by cases hcaller⟩
  | append_singleton l h ih =>
    have hold := ih hrun.of_append
    have hw := answered_after (e := e) l
    have hs := sound_after (e := e) l
    have hkept := hrun.kept l h List.prefix_rfl
    have hothers := hrun.others l h List.prefix_rfl
    have hadding := hrun.adding
    rw [after_append] at hothers hadding ⊢
    -- One case for each kind of happening; what is excluded of it is in `hrun`.
    cases h with
    | act j a => exact hold.act htest l hkept (hothers (by simp))
    | deliver j k => exact hold.deliver hw hs j k
    | append key events =>
      exact hold.keep_step hw hs (by simp) (by simp) rfl hkept (hothers (by simp))
    | serve j k verdict =>
      refine hold.serve hs hadding hkept fun hij => hothers ?_
      rintro id verdict' ⟨⟩
      exact hij rfl

/-- **A fetch brings what is not cached**, as long as no acknowledgement is lost.  No event is cached
twice, and no retrieve returns an event twice.  A snapshot with less than as many events as were asked
for is added to what is cached, and none of its events is cached before. -/
theorem brings_what_is_new (htest : (e i).isTest sender = false) {happenings : List (Happening ι)}
    (hrun : Undisturbed e own i sender happenings) :
    (((after e happenings).engines i).cache.entry sender).events.Nodup ∧
    ∀ id t call r, ((after e happenings).engines i).caller? id = some (t, call) →
      t.sender = sender → (after e happenings).replies i id = some r →
      (∀ k record, .done k (.retrieved (some record)) ∈
          ((e i).step ((after e happenings).engines i) (.reply id r.reply)).2 →
        record.events.Nodup) ∧
      ∀ snapshot, r.reply = .fetched (.ok (some snapshot)) →
        isWindowed snapshot.tracker.events.length (e i).config.maxEvents.toNat = false →
        (∃ record, ((e i).step ((after e happenings).engines i) (.reply id r.reply)).2 =
            [.done id (.retrieved (some record))] ∧
          record.events = (((after e happenings).engines i).cache.entry sender).events ++
            snapshot.tracker.events) ∧
        ∀ event ∈ snapshot.tracker.events,
          event ∉ (((after e happenings).engines i).cache.entry sender).events := by
  have haccounts := accounts_after htest hrun
  refine ⟨haccounts.nodup, fun id t call r hcaller hsender hr => ?_⟩
  -- The entry as it will be once the reply is taken up.
  have hnodup := (haccounts.coming id t call r hcaller hsender hr).nodup
  subst hsender
  refine ⟨fun k record hdone => ?_, fun snapshot hreply hpartial => ?_⟩
  · obtain ⟨u, c, hcaller', ⟨verdict, log, rfl⟩, -⟩ := answered_after (e := e) happenings i id r hr
    have hs := sound_after (e := e) happenings i
    obtain ⟨rfl, rfl⟩ := Prod.mk.inj (Option.some.inj (hcaller.symm.trans hcaller'))
    rw [(Engine.step_reply_left (hs.actor?_carryOut hcaller verdict log)).effects_eq] at hdone
    rw [Entry.events, Engine.normal_of_retrieved hdone] at hnodup
    exact hnodup
  · obtain ⟨frame, hop, hsnapshot, heffects⟩ := retrieved_of_snapshot hcaller hr hreply
    have hevents := Entry.events_fetched_of_partial _ _ _ _ _ hsnapshot hpartial
    have hfetched : (((after e happenings).engines i).cache.entry t.sender).fetched (e i) t.sender
        r.log frame = ((e i).conclude (((after e happenings).engines i).cache.entry t.sender)
          t.operation r.reply).1 := by
      rw [hop, hreply, hsnapshot]
      rfl
    rw [← hfetched, hevents] at hnodup
    -- The whole list is free of repetition, so its two halves have no event in common.
    refine ⟨⟨_, heffects, hevents⟩, fun event hevent hcached => ?_⟩
    exact List.disjoint_of_nodup_append hnodup hcached hevent

/-! ### Two writes that fail -/

open Engine (conversation plainEngine)

/-- A conversation is saved, and another program adds to it.  The next write fails without being
carried out, and the answer to a retrieve is on its way. -/
def notWritten : List (Happening Unit) :=
  Happening.wholly () 0 (.save (conversation [1])) (.granted none) ++
  [.append "ann" (conversation [2]).events] ++
  Happening.wholly () 1 (.save (conversation [1, 3])) (.failed false (.timeout 30)) ++
  [.act () (.begin 2 (.retrieve "ann")), .act () (.enter 2), .serve () 2 (.granted (some {}))]

theorem dealings_notWritten : (after (fun _ => plainEngine) notWritten).dealings =
    [⟨(), {}, .save (conversation [1]), []⟩,
      ⟨(), ⟨some (conversation [1]), none, some ⟨0, 1⟩⟩, .save (conversation [1, 3]),
        (conversation [1, 2]).events⟩,
      ⟨(), ⟨some (conversation [1, 3]), none, some ⟨0, 1⟩⟩, .retrieve "ann",
        (conversation [1, 2]).events⟩] := by
  rfl

theorem undisturbed_notWritten : Undisturbed (fun _ => plainEngine)
    (· ∈ (conversation [1, 3]).events) () "ann" notWritten := by
  refine ⟨fun d hd _ _ => ?_, fun l h hp hserve event hevent hown => ?_, fun l h hp => ?_⟩
  · rw [dealings_notWritten] at hd
    simp only [List.mem_cons, List.not_mem_nil, or_false] at hd
    rcases hd with rfl | rfl | rfl
    · refine ⟨List.nil_prefix, ?_, ?_⟩ <;> simp +decide [Entry.events, conversation]
    · refine ⟨⟨(conversation [3]).events, rfl⟩, ?_, ?_⟩ <;>
        simp +decide [Entry.events, conversation]
    · simp +decide [Entry.Adding, conversation]
  · have hmem : h ∈ notWritten := hp.subset (by simp)
    rw [after_append] at hevent
    rcases mem_logs_step hevent with hold | ⟨events, rfl, hnew⟩ | ⟨i, id, verdict, rfl⟩
    · exact hold
    · obtain rfl : events = (conversation [2]).events := by
        simpa [notWritten, Happening.wholly] using hmem
      obtain rfl : event = ⟨"bot", 2, []⟩ := by simpa [conversation] using hnew
      exact absurd hown (by simp +decide [conversation])
    · exact absurd rfl (hserve id verdict)
  · have hmem : h ∈ notWritten := hp.subset (by simp)
    rintro (⟨id, cause, -, -, -, rfl, -⟩ | ⟨id, rfl, -⟩) <;>
      simp [notWritten, Happening.wholly] at hmem

/-- The retrieve returns each event once. -/
theorem brings_what_is_new_notWritten : plainEngine.isTest "ann" = false ∧
    Undisturbed (fun _ => plainEngine) (· ∈ (conversation [1, 3]).events) () "ann" notWritten ∧
    (conversation [1, 3]).events.Nodup ∧
    ∃ record, (plainEngine.step ((after (fun _ => plainEngine) notWritten).engines ())
        (.reply 2 (.fetched (.ok (some ⟨{ events := (conversation [2]).events }, some 1,
          some 2⟩))))).2 =
      [.done 2 (.retrieved (some record))] ∧
      record.events = (conversation [1, 3]).events ++ (conversation [2]).events := by
  obtain ⟨hcached, hcoming⟩ :=
    brings_what_is_new (e := fun _ => plainEngine) rfl undisturbed_notWritten
  refine ⟨rfl, undisturbed_notWritten, hcached, ?_⟩
  obtain ⟨-, hbrings⟩ := hcoming 2 _ _ _ rfl rfl rfl
  exact (hbrings _ rfl rfl).1

/-- A write is carried out and reported as a failure, and the answer to a retrieve is on its way. -/
def writtenUnknown : List (Happening Unit) :=
  Happening.wholly () 0 (.save (conversation [1])) (.failed true (.timeout 30)) ++
  [.act () (.begin 1 (.retrieve "ann")), .act () (.enter 1), .serve () 1 (.granted (some {}))]

theorem dealings_writtenUnknown : (after (fun _ => plainEngine) writtenUnknown).dealings =
    [⟨(), {}, .save (conversation [1]), []⟩,
      ⟨(), ⟨some (conversation [1]), none, none⟩, .retrieve "ann", (conversation [1]).events⟩] := by
  rfl

/-- An event whose write was carried out and reported as a failure is brought by the next fetch,
although it is cached, even if one engine alone writes, all saves go on with what is cached by new
events, and the log has no event twice. -/
theorem brought_again :
    ¬ ∀ (e : Unit → Engine) (sender : String) (happenings : List (Happening Unit)),
      (e ()).isTest sender = false →
      (∀ key events, .append key events ∉ happenings) →
      (∀ d ∈ (after e happenings).dealings, ∀ r, d.operation = .save r →
        ∃ added, r.events = d.entry.events ++ added ∧ ∀ event ∈ added, event ∉ d.log) →
      ((after e happenings).logs sender).Nodup →
      ∀ id t call r snapshot, ((after e happenings).engines ()).caller? id = some (t, call) →
        t.sender = sender → (after e happenings).replies () id = some r →
        r.reply = .fetched (.ok (some snapshot)) →
        isWindowed snapshot.tracker.events.length (e ()).config.maxEvents.toNat = false →
        ∀ event ∈ snapshot.tracker.events,
          event ∉ (((after e happenings).engines ()).cache.entry sender).events := by
  intro h
  have hextends : ∀ d ∈ (after (fun _ => plainEngine) writtenUnknown).dealings, ∀ r,
      d.operation = .save r →
      ∃ added, r.events = d.entry.events ++ added ∧ ∀ event ∈ added, event ∉ d.log := by
    intro d hd r hop
    rw [dealings_writtenUnknown] at hd
    simp only [List.mem_cons, List.not_mem_nil, or_false] at hd
    rcases hd with rfl | rfl <;> cases hop
    exact ⟨(conversation [1]).events, rfl, by simp⟩
  have hlog : (after (fun _ => plainEngine) writtenUnknown).logs "ann" =
      (conversation [1]).events := rfl
  have hcached : (((after (fun _ => plainEngine) writtenUnknown).engines ()).cache.entry
      "ann").events = (conversation [1]).events := rfl
  have hnew := h (fun _ => plainEngine) "ann" writtenUnknown rfl
    (by simp [writtenUnknown, Happening.wholly]) hextends (by rw [hlog]; simp [conversation])
    1 _ _ _ ⟨{ events := (conversation [1]).events }, some 0, some 1⟩ rfl rfl rfl rfl rfl
    ⟨"bot", 1, []⟩ (by simp [conversation])
  rw [hcached] at hnew
  exact hnew (by simp [conversation])

end World

end DialogueStore
