/-
Reading a log that others write.

A fetch brings the events after the cursor, but no more than a limit, and it does
not tell whether it has left any out.  An engine that only reads is right to take
an answer of exactly that many events for one with a gap in front, and to continue
its events with any other one: what it has cached of a conversation is always one
stretch of the log, and it ends where the cursor is (`World.cached_stretch`).
-/
import DialogueStore.Proofs.Lasting

namespace DialogueStore

/-- What is cached is a stretch of the log that ends at the cursor.  It is all of the log up to there,
or at least as much as one fetch brings. -/
def Entry.IsStretch (cap : Nat) (x : Entry) (log : List Event) : Prop :=
  ∃ past later, log = past ++ x.events ++ later ∧
    ((past ++ x.events).length : Int) = x.lastCursor.lastIndex + 1 ∧
    (past = [] ∨ cap ≤ x.events.length)

namespace Entry.IsStretch

variable {cap : Nat} {x : Entry} {log : List Event}

/-- The rest of the log is what comes after the cursor. -/
theorem drop_passed (h : x.IsStretch cap log) :
    ∃ past, log = past ++ x.events ++ log.drop x.passed ∧ (past = [] ∨ cap ≤ x.events.length) := by
  obtain ⟨past, later, hlog, hlength, hcap⟩ := h
  have hpassed : x.passed = (past ++ x.events).length := by
    rw [passed]
    omega
  exact ⟨past, by rw [hpassed, hlog, List.drop_left], hcap⟩

/-- A stretch up to the end of the log is what the log ends with. -/
theorem suffix (h : x.IsStretch cap log)
    (hend : x.lastCursor.lastIndex = (log.length : Int) - 1) :
    x.events <:+ log ∧ (x.events = log ∨ cap ≤ x.events.length) := by
  obtain ⟨past, later, rfl, hlength, hcap⟩ := h
  have hlater : later = [] := by
    rw [← List.length_eq_zero_iff]
    rw [List.length_append] at hend
    omega
  rw [hlater, List.append_nil]
  exact ⟨⟨past, rfl⟩, hcap.imp_left fun hpast => by rw [hpast, List.nil_append]⟩

theorem fetched {e : Engine} (h : x.IsStretch e.config.maxEvents.toNat log) (sender : String)
    (frame : Record) : (x.fetched e sender log frame).IsStretch e.config.maxEvents.toNat log := by
  have hall {past : List Event} (hlog : log = past ++ (x.fetched e sender log frame).events)
      (hcap : past = [] ∨
        e.config.maxEvents.toNat ≤ (x.fetched e sender log frame).events.length) :
      (x.fetched e sender log frame).IsStretch e.config.maxEvents.toNat log := by
    refine ⟨past, [], by rw [List.append_nil]; exact hlog, ?_, hcap⟩
    rw [lastIndex_fetched, ← hlog]
    omega
  -- Either the fetched events are appended, or a windowed snapshot takes the place of what was
  -- cached.
  rcases events_fetched x e sender log frame with hevents | ⟨⟨past, hpast⟩, hlength⟩
  · obtain ⟨past, hpast, hcap⟩ := h.drop_passed
    refine hall (by rw [hevents, ← List.append_assoc]; exact hpast) (hcap.imp_right fun hcap => ?_)
    rw [hevents, List.length_append]
    omega
  · exact hall hpast.symm (.inr hlength.ge)

end Entry.IsStretch

/-- Reading keeps the stretch. -/
theorem lasting_isStretch (e : Engine) : Lasting e (Entry.IsStretch e.config.maxEvents.toNat)
    fun _ op _ => ∃ sender, op = .retrieve sender where
  empty log := ⟨[], log, rfl, rfl, .inl rfl⟩
  append := by
    rintro x log more ⟨past, later, rfl, h⟩
    exact ⟨past, later ++ more, by simp, h⟩
  carryOut := by
    rintro x _ log verdict h ⟨sender, rfl⟩
    rcases verdict with (_ | frame) | _
    · exact h
    · exact h.fetched sender frame
    · exact h

namespace World

variable {ι : Type} [DecidableEq ι] {e : ι → Engine} {i : ι} {sender : String}
  {happenings : List (Happening ι)}

/-- Where no save of a sender is begun, the store is asked for retrieves of it only. -/
theorem asked_retrieve (hreads : ∀ id r, .act i (.begin id (.save r)) ∈ happenings →
    r.senderId ≠ sender) :
    (after e happenings).Asked i sender fun _ op _ => ∃ sender, op = .retrieve sender := by
  rintro d hd rfl hsender
  obtain ⟨id, op, hbegun, hop⟩ := begun_of_dealing happenings hd
  cases op with
  | retrieve s => exact ⟨s, hop.symm⟩
  | save r =>
    refine absurd ?_ (hreads id r hbegun)
    rw [← hsender, ← hop, Operation.sender_anonymize]
    rfl

/-- **Reading leaves no gap.**  An engine that only reads the conversation of a sender has a stretch
of the log cached that ends at its cursor, whoever writes meanwhile and whatever fails; it leaves out
nothing before, unless it has at least as many events as one fetch brings.  A retrieve that is
answered by a snapshot returns such an end of the log as it was when the snapshot was taken. -/
theorem cached_stretch (htest : (e i).isTest sender = false)
    (hreads : ∀ id r, .act i (.begin id (.save r)) ∈ happenings → r.senderId ≠ sender) :
    (∃ past later, (after e happenings).logs sender =
        past ++ (((after e happenings).engines i).cache.entry sender).events ++ later ∧
      ((past ++ (((after e happenings).engines i).cache.entry sender).events).length : Int) =
        (((after e happenings).engines i).cache.cursor sender).lastIndex + 1 ∧
      (past = [] ∨ (e i).config.maxEvents.toNat ≤
        (((after e happenings).engines i).cache.entry sender).events.length)) ∧
    ∀ id t call r snapshot, ((after e happenings).engines i).caller? id = some (t, call) →
      t.sender = sender → (after e happenings).replies i id = some r →
      r.reply = .fetched (.ok (some snapshot)) →
      ∃ record, ((e i).step ((after e happenings).engines i) (.reply id r.reply)).2 =
        [.done id (.retrieved (some record))] ∧ record.events <:+ r.log ∧
          (record.events = r.log ∨ (e i).config.maxEvents.toNat ≤ record.events.length) := by
  -- Retrieves alone keep the stretch, and the saves of this sender are excluded.
  have hupholds := (lasting_isStretch (e i)).upholds htest (asked_retrieve hreads)
  refine ⟨hupholds.entry, fun id t call r snapshot hcaller hsender hr hreply => ?_⟩
  obtain ⟨record, x, heffects, hevents, hend, hx⟩ :=
    hupholds.retrieved hcaller hsender hr hreply
  exact ⟨record, heffects, hevents ▸ hx.suffix hend⟩

/-- An engine that fetches two events at most. -/
def narrowEngine : Engine := { Engine.plainEngine with config := { maxEvents := 2 } }

/-- A conversation that is written elsewhere and read here: by a retrieve that does not bring all of
it, one that continues it, one that fails, one that is dropped, and one whose answer is on its way. -/
def readAlong : List (Happening Unit) :=
  [.append "ann" (Engine.conversation [1, 2, 3]).events] ++
  Happening.wholly () 0 (.retrieve "ann") (.granted (some {})) ++
  [.append "ann" (Engine.conversation [4]).events] ++
  Happening.wholly () 1 (.retrieve "ann") (.granted (some {})) ++
  Happening.wholly () 2 (.retrieve "ann") (.failed false (.timeout 30)) ++
  [.act () (.begin 3 (.retrieve "ann")), .act () (.enter 3), .act () (.cancel 3),
    .append "ann" (Engine.conversation [5]).events,
    .act () (.begin 4 (.retrieve "ann")), .act () (.enter 4), .serve () 4 (.granted (some {})),
    .append "ann" (Engine.conversation [6]).events]

/-- What is cached is the stretch from the second event to the fourth one, and the answer on its way
will continue it. -/
theorem cached_stretch_readAlong : narrowEngine.isTest "ann" = false ∧
    (∀ id r, .act () (.begin id (.save r)) ∈ readAlong → r.senderId ≠ "ann") ∧
    (∃ past later, (Engine.conversation [1, 2, 3, 4, 5, 6]).events =
        past ++ (Engine.conversation [2, 3, 4]).events ++ later ∧
      ((past ++ (Engine.conversation [2, 3, 4]).events).length : Int) = 3 + 1 ∧
      (past = [] ∨ 2 ≤ (Engine.conversation [2, 3, 4]).events.length)) ∧
    ∃ record, (narrowEngine.step ((after (fun _ => narrowEngine) readAlong).engines ())
        (.reply 4 (.fetched (.ok (some ⟨{ events := (Engine.conversation [5]).events }, some 4,
          some 5⟩))))).2 =
      [.done 4 (.retrieved (some record))] ∧
      record.events <:+ (Engine.conversation [1, 2, 3, 4, 5]).events ∧
      (record.events = (Engine.conversation [1, 2, 3, 4, 5]).events ∨ 2 ≤ record.events.length) := by
  have hreads : ∀ id r, .act () (.begin id (.save r)) ∈ readAlong → r.senderId ≠ "ann" := by
    simp [readAlong, Happening.wholly]
  obtain ⟨hstretch, hcoming⟩ := cached_stretch (e := fun _ => narrowEngine) (i := ()) rfl hreads
  refine ⟨rfl, hreads, hstretch, ?_⟩
  exact hcoming 4 _ _ _ _ rfl rfl rfl rfl

end World

end DialogueStore
