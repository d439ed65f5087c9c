/-
Writing to a log that others write as well.

The acknowledgement of a write tells where the log ends, and the cursor is moved
there.  If somebody else has written since the engine last looked, then the
cursor moves over events that the engine has not seen, and no later fetch will
bring them (`World.overtaken`).  As long as each write is made with all that the
log has after the cursor, nothing is skipped (`World.skips_nothing`).

Design notes: the cached events need not be one stretch of the log here, since a
failed write leaves events in the cache that are not in the log.  What matters is
that up to the cursor the log changes only once from events that are not cached
to events that are (`Entry.Covers`).
-/
import DialogueStore.Proofs.Lasting

namespace DialogueStore

/-- Each event of a log up to an index is among these events, or it comes before the first event of
the log that is. -/
def NoneSkipped (events log : List Event) (last : Int) : Prop :=
  ∀ (j : Nat) (event : Event), log[j]? = some event → j ≤ last →
    event ∈ events ∨ ∀ (k : Nat) (other : Event), log[k]? = some other → other ∈ events → j < k

/-- Among these events are the last ones of a log up to an index, as many as given by `cap`. -/
def HasLatest (cap : Nat) (events log : List Event) (last : Int) : Prop :=
  ∀ (j : Nat) (event : Event), log[j]? = some event → j ≤ last → last < j + cap → event ∈ events

namespace Entry

/-- From some point of the log on, all events up to the cursor are cached, and none before.  These
are all events up to there, or at least as many as one fetch brings. -/
structure CoversFrom (cap : Nat) (x : Entry) (past seen : List Event) : Prop where
  length_eq : ((past ++ seen).length : Int) = x.lastCursor.lastIndex + 1
  unknown : ∀ event ∈ past, event ∉ x.events
  known : ∀ event ∈ seen, event ∈ x.events
  enough : past = [] ∨ cap ≤ seen.length

/-- A log can be split in this way, with whatever comes after the cursor. -/
def Covers (cap : Nat) (x : Entry) (log : List Event) : Prop :=
  ∃ past seen later, log = past ++ seen ++ later ∧ x.CoversFrom cap past seen

/-- A record that goes on with what is cached and that is not overtaken by what others write. -/
structure Continues (x : Entry) (log : List Event) (r : Record) : Prop where
  cached : x.events <+: r.events
  /-- What the record adds was not in the log when the engine last looked. -/
  fresh : ∀ event ∈ r.events.drop x.events.length, event ∉ log.take x.passed
  /-- The record has all that came into the log since. -/
  upToDate : ∀ event ∈ log.drop x.passed, event ∈ r.events

/-- What is asked of a request for nothing to be skipped.  A log that is fetched from has no event
twice. -/
def Careful (x : Entry) : Operation → List Event → Prop
  | .save r, log => x.Continues log r
  | .retrieve _, log => log.Nodup

/-- What the record has of the log up to the cursor is what is cached of it. -/
theorem Continues.not_mem {x : Entry} {log : List Event} {r : Record} (h : x.Continues log r)
    {event : Event} (hlog : event ∈ log.take x.passed) (hx : event ∉ x.events) :
    event ∉ r.events := by
  obtain ⟨added, hadded⟩ := h.cached
  have hfresh : event ∉ added := by
    intro hmem
    exact h.fresh event (by rw [← hadded, List.drop_left]; exact hmem) hlog
  rw [← hadded, List.mem_append]
  exact not_or.2 ⟨hx, hfresh⟩

namespace CoversFrom

variable {cap : Nat} {x : Entry} {past seen later : List Event} {r : Record}

theorem passed_eq (h : x.CoversFrom cap past seen) : x.passed = (past ++ seen).length := by
  have := h.length_eq
  rw [passed]
  omega

theorem drop_passed (h : x.CoversFrom cap past seen) (later : List Event) :
    (past ++ seen ++ later).drop x.passed = later := by
  rw [h.passed_eq, List.drop_left]

theorem noneSkipped (h : x.CoversFrom cap past seen) (later : List Event) :
    NoneSkipped x.events (past ++ seen ++ later) x.lastCursor.lastIndex := by
  intro j event hj hindex
  have hlength := h.length_eq
  rw [List.getElem?_append_left (by omega)] at hj
  by_cases hjpast : j < past.length
  · right
    intro k other hk hother
    by_contra hle
    rw [List.append_assoc, List.getElem?_append_left (by omega)] at hk
    exact h.unknown other (List.mem_of_getElem? hk) hother
  · left
    rw [List.getElem?_append_right (by omega)] at hj
    exact h.known event (List.mem_of_getElem? hj)

theorem hasLatest (h : x.CoversFrom cap past seen) (later : List Event) :
    HasLatest cap x.events (past ++ seen ++ later) x.lastCursor.lastIndex := by
  intro j event hj hindex hlatest
  have hlength := h.length_eq
  have hjpast : past.length ≤ j := by
    rcases h.enough with hpast | hcap
    · rw [hpast]
      exact Nat.zero_le j
    · rw [List.length_append] at hlength
      omega
  rw [List.getElem?_append_left (by omega), List.getElem?_append_right hjpast] at hj
  exact h.known event (List.mem_of_getElem? hj)

/-- What is not known of the log up to the cursor, a record that continues the cached one does not
have. -/
theorem not_mem_record (h : x.CoversFrom cap past seen)
    (hr : x.Continues (past ++ seen ++ later) r) : ∀ event ∈ past, event ∉ r.events := by
  intro event hevent
  refine hr.not_mem ?_ (h.unknown event hevent)
  rw [h.passed_eq, List.take_left]
  exact List.mem_append_left _ hevent

end CoversFrom

namespace Covers

variable {cap : Nat} {x y : Entry} {log past seen : List Event} {r : Record}

/-- With the cursor at its end, the log is split in two. -/
theorem of_end (hlog : log = past ++ seen) (hend : x.lastCursor.lastIndex = (log.length : Int) - 1)
    (hpast : ∀ event ∈ past, event ∉ x.events) (hseen : ∀ event ∈ seen, event ∈ x.events)
    (henough : past = [] ∨ cap ≤ seen.length) : x.Covers cap log := by
  refine ⟨past, seen, [], by rw [List.append_nil]; exact hlog, ?_, hpast, hseen, henough⟩
  rw [hend, ← hlog]
  omega

/-- A fetch moves the cursor over events that it brings. -/
theorem fetched {e : Engine} (h : x.Covers e.config.maxEvents.toNat log) (hnodup : log.Nodup)
    (sender : String) (frame : Record) :
    (x.fetched e sender log frame).Covers e.config.maxEvents.toNat log := by
  have hend := lastIndex_fetched x e sender log frame
  rcases events_fetched x e sender log frame with hevents | ⟨⟨past, hlog⟩, hlength⟩
  · -- What is new does not occur in the part before, since no event comes twice.
    obtain ⟨past, seen, later, rfl, hx⟩ := h
    rw [hx.drop_passed] at hevents
    rw [List.append_assoc] at hnodup
    have hdisjoint := List.disjoint_of_nodup_append hnodup
    refine of_end (List.append_assoc _ _ _) hend ?_ ?_ (hx.enough.imp_right fun hcap => ?_)
    · intro event hevent
      rw [hevents, List.mem_append]
      exact not_or.2
        ⟨hx.unknown event hevent, fun hmem => hdisjoint hevent (List.mem_append_right _ hmem)⟩
    · intro event hevent
      rw [hevents, List.mem_append]
      exact (List.mem_append.1 hevent).imp (hx.known event) id
    · rw [List.length_append]
      omega
  · rw [← hlog] at hnodup
    have hdisjoint := List.disjoint_of_nodup_append hnodup
    exact of_end hlog.symm hend (fun _ hpast hmem => hdisjoint hpast hmem) (fun _ hmem => hmem)
      (.inr hlength.ge)

/-- An acknowledged write moves the cursor over events that the record has. -/
theorem acknowledged (h : x.Covers cap log) (hr : x.Continues log r) {sent : List Event}
    (hsent : ∀ event ∈ sent, event ∈ r.events) (hevents : y.events = r.events)
    (hend : y.lastCursor.lastIndex = ((log ++ sent).length : Int) - 1) :
    y.Covers cap (log ++ sent) := by
  obtain ⟨past, seen, later, rfl, hx⟩ := h
  have hlater := hr.upToDate
  rw [hx.drop_passed] at hlater
  have hsplit : past ++ seen ++ later ++ sent = past ++ (seen ++ later ++ sent) := by simp
  refine of_end hsplit hend ?_ ?_ (hx.enough.imp_right fun hcap => ?_)
  · rw [hevents]
    exact hx.not_mem_record hr
  · intro event hevent
    rw [hevents]
    simp only [List.mem_append] at hevent
    rcases hevent with (hevent | hevent) | hevent
    · exact hr.cached.mem (hx.known event hevent)
    · exact hlater event hevent
    · exact hsent event hevent
  · simp only [List.length_append]
    omega

/-- A write that fails moves no cursor. -/
theorem failed (h : x.Covers cap log) (hr : x.Continues log r) {log' : List Event}
    (hlog : log <+: log') (hevents : y.events = r.events)
    (hcursor : y.lastCursor = x.lastCursor) : y.Covers cap log' := by
  obtain ⟨past, seen, later, rfl, hx⟩ := h
  obtain ⟨more, rfl⟩ := hlog
  refine ⟨past, seen, later ++ more, by simp, ?_, ?_, ?_, hx.enough⟩
  · rw [hcursor]
    exact hx.length_eq
  · rw [hevents]
    exact hx.not_mem_record hr
  · intro event hevent
    rw [hevents]
    exact hr.cached.mem (hx.known event hevent)

end Covers

end Entry

/-- Nothing is skipped by requests that are made with care. -/
theorem lasting_covers (e : Engine) :
    Lasting e (Entry.Covers e.config.maxEvents.toNat) Entry.Careful where
  empty log := ⟨[], [], log, rfl, rfl, by simp, by simp, .inl rfl⟩
  append := by
    rintro x log more ⟨past, seen, later, rfl, h⟩
    exact ⟨past, seen, later ++ more, by simp, h⟩
  carryOut := by
    intro x op log verdict h hcareful
    cases op with
    | retrieve sender =>
      rcases verdict with (_ | frame) | _
      · exact h
      · exact h.fetched hcareful sender frame
      · exact h
    | save r =>
      obtain ⟨sent, hsent, hcarryOut⟩ := verdict.carryOut_save log e x r
      rw [hcarryOut]
      cases verdict with
      | granted frame => exact h.acknowledged hcareful hsent rfl (lastIndex_logEnd _)
      | failed applied cause =>
        cases applied with
        | true => exact h.failed hcareful (List.prefix_append _ _) rfl rfl
        | false => exact h.failed hcareful List.prefix_rfl rfl rfl

namespace World

variable {ι : Type} [DecidableEq ι] {e : ι → Engine} {i : ι} {sender : String}
  {happenings : List (Happening ι)}

/-- **Nothing is skipped where no write is overtaken.**  Engines share the log of a sender.  If an
engine's saves go on with what it has cached, and whenever one is written it has all that the log has
after the cursor, then each event up to the cursor is cached or comes before all that is; and of the
latest events up to the cursor, as many as one fetch brings are cached.  A retrieve that is answered
by a snapshot returns a record of which the same holds for the whole log. -/
theorem skips_nothing (htest : (e i).isTest sender = false)
    (hcareful : (after e happenings).Asked i sender Entry.Careful) :
    (NoneSkipped (((after e happenings).engines i).cache.entry sender).events
        ((after e happenings).logs sender)
        (((after e happenings).engines i).cache.cursor sender).lastIndex ∧
      HasLatest (e i).config.maxEvents.toNat
        (((after e happenings).engines i).cache.entry sender).events
        ((after e happenings).logs sender)
        (((after e happenings).engines i).cache.cursor sender).lastIndex) ∧
    ∀ id t call r snapshot, ((after e happenings).engines i).caller? id = some (t, call) →
      t.sender = sender → (after e happenings).replies i id = some r →
      r.reply = .fetched (.ok (some snapshot)) →
      ∃ record, ((e i).step ((after e happenings).engines i) (.reply id r.reply)).2 =
        [.done id (.retrieved (some record))] ∧
        NoneSkipped record.events r.log ((r.log.length : Int) - 1) ∧
        HasLatest (e i).config.maxEvents.toNat record.events r.log ((r.log.length : Int) - 1) := by
  have hupholds := (lasting_covers (e i)).upholds htest hcareful
  refine ⟨?_, fun id t call r snapshot hcaller hsender hr hreply => ?_⟩
  · -- The log divides into what came before the stretch, the stretch, and what is not seen yet.
    obtain ⟨past, seen, later, hlog, hx⟩ := hupholds.entry
    rw [hlog]
    exact ⟨hx.noneSkipped later, hx.hasLatest later⟩
  · obtain ⟨record, x, heffects, hevents, hend, past, seen, later, hlog, hx⟩ :=
      hupholds.retrieved hcaller hsender hr hreply
    refine ⟨record, heffects, ?_⟩
    rw [← hevents, ← hend, hlog]
    exact ⟨hx.noneSkipped later, hx.hasLatest later⟩

/-! ### Two engines -/

open Engine (conversation plainEngine)

/-- Two engines that take turns: each one reads what the other one has written before it writes.
The last answer is on its way. -/
def takingTurns : List (Happening Bool) :=
  Happening.wholly true 0 (.save (conversation [1])) (.granted none) ++
  Happening.wholly false 0 (.retrieve "ann") (.granted (some {})) ++
  Happening.wholly false 1 (.save (conversation [1, 2])) (.granted none) ++
  Happening.wholly true 1 (.retrieve "ann") (.granted (some {})) ++
  Happening.wholly true 2 (.save (conversation [1, 2, 3])) (.granted none) ++
  [.act false (.begin 2 (.retrieve "ann")), .act false (.enter 2),
    .serve false 2 (.granted (some {}))]

theorem dealings_takingTurns : (after (fun _ => plainEngine) takingTurns).dealings =
    [⟨true, {}, .save (conversation [1]), []⟩,
      ⟨false, {}, .retrieve "ann", (conversation [1]).events⟩,
      ⟨false, ⟨some (conversation [1]), none, some ⟨0, 1⟩⟩, .save (conversation [1, 2]),
        (conversation [1]).events⟩,
      ⟨true, ⟨some (conversation [1]), none, some ⟨0, 1⟩⟩, .retrieve "ann",
        (conversation [1, 2]).events⟩,
      ⟨true, ⟨some (conversation [1, 2]), none, some ⟨1, 2⟩⟩, .save (conversation [1, 2, 3]),
        (conversation [1, 2]).events⟩,
      ⟨false, ⟨some (conversation [1, 2]), none, some ⟨1, 2⟩⟩, .retrieve "ann",
        (conversation [1, 2, 3]).events⟩] := by
  rfl

theorem careful_takingTurns :
    (after (fun _ => plainEngine) takingTurns).Asked false "ann" Entry.Careful := by
  intro d hd hengine _
  rw [dealings_takingTurns] at hd
  simp only [List.mem_cons, List.not_mem_nil, or_false] at hd
  rcases hd with rfl | rfl | rfl | rfl | rfl | rfl
  · cases hengine
  · simp [Entry.Careful, conversation]
  · refine ⟨⟨(conversation [2]).events, rfl⟩, ?_, ?_⟩
    · simp +decide [Entry.events, Entry.passed, Entry.lastCursor, conversation]
    · simp [Entry.passed, Entry.lastCursor, conversation]
  · cases hengine
  · cases hengine
  · simp +decide [Entry.Careful, conversation]

/-- The second engine has all that was written up to its cursor, and it will get the rest. -/
theorem skips_nothing_takingTurns : plainEngine.isTest "ann" = false ∧
    (after (fun _ => plainEngine) takingTurns).Asked false "ann" Entry.Careful ∧
    (NoneSkipped (conversation [1, 2]).events (conversation [1, 2, 3]).events 1 ∧
      HasLatest 100 (conversation [1, 2]).events (conversation [1, 2, 3]).events 1) ∧
    ∃ record, (plainEngine.step ((after (fun _ => plainEngine) takingTurns).engines false)
        (.reply 2 (.fetched (.ok (some ⟨{ events := (conversation [3]).events }, some 2,
          some 3⟩))))).2 =
      [.done 2 (.retrieved (some record))] ∧
      NoneSkipped record.events (conversation [1, 2, 3]).events 2 ∧
      HasLatest 100 record.events (conversation [1, 2, 3]).events 2 := by
  obtain ⟨hcached, hcoming⟩ := skips_nothing (e := fun _ => plainEngine) rfl careful_takingTurns
  refine ⟨rfl, careful_takingTurns, hcached, ?_⟩
  exact hcoming 2 _ _ _ _ rfl rfl rfl rfl

/-- Two engines that write the same conversation on: the first one does so without having read what
the second one has added meanwhile, and then it reads. -/
def crossing : List (Happening Bool) :=
  Happening.wholly false 0 (.save (conversation [1])) (.granted none) ++
  Happening.wholly true 0 (.retrieve "ann") (.granted (some {})) ++
  Happening.wholly false 1 (.save (conversation [1, 2])) (.granted none) ++
  Happening.wholly true 1 (.save (conversation [1, 3])) (.granted none) ++
  Happening.wholly true 2 (.retrieve "ann") (.granted (some {}))

theorem dealings_crossing : (after (fun _ => plainEngine) crossing).dealings =
    [⟨false, {}, .save (conversation [1]), []⟩,
      ⟨true, {}, .retrieve "ann", (conversation [1]).events⟩,
      ⟨false, ⟨some (conversation [1]), none, some ⟨0, 1⟩⟩, .save (conversation [1, 2]),
        (conversation [1]).events⟩,
      ⟨true, ⟨some (conversation [1]), none, some ⟨0, 1⟩⟩, .save (conversation [1, 3]),
        (conversation [1, 2]).events⟩,
      ⟨true, ⟨some (conversation [1, 3]), none, some ⟨2, 3⟩⟩, .retrieve "ann",
        (conversation [1, 2, 3]).events⟩] := by
  rfl

theorem logs_crossing : (after (fun _ => plainEngine) crossing).logs "ann" =
    (conversation [1, 2, 3]).events := by
  rfl

theorem events_crossing :
    (((after (fun _ => plainEngine) crossing).engines true).cache.entry "ann").events =
      (conversation [1, 3]).events := by
  rfl

/-- The acknowledgement of a write moves the cursor over what another engine has written, even if
all saves go on with what is cached, no event comes twice, and all requests are carried out; and a
retrieve does not bring it. -/
theorem overtaken :
    ¬ ∀ (e : Bool → Engine) (sender : String) (happenings : List (Happening Bool)),
      (∀ i, (e i).isTest sender = false) →
      (∀ i id applied cause, .serve i id (.failed applied cause) ∉ happenings) →
      (∀ key events, .append key events ∉ happenings) →
      (∀ d ∈ (after e happenings).dealings, ∀ r, d.operation = .save r →
        ∃ added, r.events = d.entry.events ++ added ∧ ∀ event ∈ added, event ∉ d.log) →
      ((after e happenings).logs sender).Nodup →
      ∀ i, NoneSkipped (((after e happenings).engines i).cache.entry sender).events
        ((after e happenings).logs sender)
        (((after e happenings).engines i).cache.cursor sender).lastIndex := by
  intro h
  have hextends : ∀ d ∈ (after (fun _ => plainEngine) crossing).dealings, ∀ r,
      d.operation = .save r →
      ∃ added, r.events = d.entry.events ++ added ∧ ∀ event ∈ added, event ∉ d.log := by
    intro d hd r hop
    rw [dealings_crossing] at hd
    simp only [List.mem_cons, List.not_mem_nil, or_false] at hd
    rcases hd with rfl | rfl | rfl | rfl | rfl <;> cases hop
    · exact ⟨(conversation [1]).events, rfl, by simp⟩
    · exact ⟨(conversation [2]).events, rfl, by simp +decide [conversation]⟩
    · exact ⟨(conversation [3]).events, rfl, by simp +decide [conversation]⟩
  have hnodup : ((after (fun _ => plainEngine) crossing).logs "ann").Nodup := by
    rw [logs_crossing]
    simp +decide [conversation]
  have hskipped := h (fun _ => plainEngine) "ann" crossing (fun _ => rfl)
    (by simp [crossing, Happening.wholly]) (by simp [crossing, Happening.wholly]) hextends hnodup
    true
  rw [logs_crossing, events_crossing] at hskipped
  -- The second event of the log is not cached, and the first one is.
  rcases hskipped 1 ⟨"bot", 2, []⟩ rfl (by decide) with hmem | hfirst
  · revert hmem
    simp +decide [conversation]
  · exact absurd (hfirst 0 ⟨"bot", 1, []⟩ rfl (by simp [conversation])) (by decide)

end World

end DialogueStore
