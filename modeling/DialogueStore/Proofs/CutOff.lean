/-
What a remote store has got after a series of writes.

A save sends the events of its record that are later than a cut-off, and the
cut-off is the time of the last event that the remote store told of.  So nobody
remembers which events are stored already, and it is a matter of times whether
the remote store ends up with each event once.  For records that extend each
other, `Orderly.progress` follows a series of writes: what is stored is a part of
the last acknowledged record and never lies beyond the cut-off, and it is all of
it just if no acknowledged record was continued at the time where it ended.
-/
import Mathlib.Data.List.Chain
import Mathlib.Data.List.Induction
import DialogueStore.Remote.Request
import DialogueStore.Proofs.FloatOrder

namespace DialogueStore

/-- A write that came to an end: the record that was saved, the events that its request carried, and
the reply. -/
structure Write where
  record : Record
  sent : List Event
  reply : WriteReply

namespace Write

def isAcknowledged (w : Write) : Bool := w.reply.toOption.isSome

/-- What the remote store keeps of a write. -/
def stored (w : Write) : List Event := if w.isAcknowledged then w.sent else []

/-- What a record adds to an earlier one is later than all of the earlier one. -/
def Later (u v : Write) : Prop :=
  ∀ event ∈ v.record.events.drop u.record.events.length, ∀ old ∈ u.record.events,
    old.timestamp < event.timestamp

instance (u v : Write) : Decidable (u.Later v) :=
  inferInstanceAs (Decidable (∀ event ∈ v.record.events.drop u.record.events.length,
    ∀ old ∈ u.record.events, old.timestamp < event.timestamp))

end Write

/-- The events that a remote store has got. -/
def storedEvents (ws : List Write) : List Event := ws.flatMap Write.stored

/-- The time of the cursor that the last acknowledged write brought. -/
def cutOff (ws : List Write) : Float :=
  (((ws.filterMap (·.reply.toOption)).getLast?.map RemoteCursor.toCursor).getD
    .initial).lastTimestamp

/-- The events of the last acknowledged record. -/
def acknowledgedEvents (ws : List Write) : List Event :=
  ((ws.filter (·.isAcknowledged)).getLast?.map (·.record.events)).getD []

variable {ws : List Write} {w : Write}

theorem storedEvents_append (ws : List Write) (w : Write) :
    storedEvents (ws ++ [w]) = storedEvents ws ++ w.stored := by
  simp [storedEvents]

theorem cutOff_append_ok {cursor : RemoteCursor} (h : w.reply = .ok cursor) :
    cutOff (ws ++ [w]) = cursor.lastTimestamp.getD 0 := by
  simp [cutOff, h, Except.toOption, RemoteCursor.toCursor, Cursor.initial]

theorem cutOff_append_error {cause : RemoteError} (h : w.reply = .error cause) :
    cutOff (ws ++ [w]) = cutOff ws := by
  simp [cutOff, h, Except.toOption]

/-! ### Sorted events and a cut-off -/

/-- The events are in the order of their times. -/
def InOrder (events : List Event) : Prop := events.Pairwise fun a b => a.timestamp ≤ b.timestamp

instance (events : List Event) : Decidable (InOrder events) :=
  inferInstanceAs (Decidable (events.Pairwise fun a b => a.timestamp ≤ b.timestamp))

theorem InOrder.le_last {events : List Event} {z : Event} (h : InOrder (events ++ [z]))
    {event : Event} (hm : event ∈ events) : event.timestamp ≤ z.timestamp :=
  (List.pairwise_append.1 h).2.2 event hm z (by simp)

theorem InOrder.not_last_lt {events : List Event} {z : Event} (h : InOrder (events ++ [z])) :
    ∀ event ∈ events ++ [z], ¬ z.timestamp < event.timestamp := by
  intro event hm
  rw [List.mem_append, List.mem_singleton] at hm
  rcases hm with hm | rfl
  · exact FloatOrder.not_lt_of_le (h.le_last hm)
  · exact FloatOrder.lt_irrefl _

/-- What is cut off is nothing, or it ends where everything ends. -/
theorem InOrder.filter_cases {old new : List Event} (h : InOrder (old ++ new)) (time : Float) :
    (new.filter (fun event => time < event.timestamp) = [] ∧
      ∀ event ∈ new, ¬ time < event.timestamp) ∨
    ∃ z, (new.filter fun event => time < event.timestamp).getLast? = some z ∧
      ∀ event ∈ old ++ new, ¬ z.timestamp < event.timestamp := by
  rcases new.eq_nil_or_concat' with rfl | ⟨init, z, rfl⟩
  · exact .inl (by simp)
  · rw [← List.append_assoc] at h
    by_cases hz : time < z.timestamp
    · refine .inr ⟨z, ?_, ?_⟩
      · simp [List.filter_append, hz]
      · rw [← List.append_assoc]
        exact h.not_last_lt
    · -- Whatever passed the cut-off would let the last event pass as well.
      have hnone : ∀ event ∈ init ++ [z], ¬ time < event.timestamp := by
        intro event hm hlt
        rw [List.mem_append, List.mem_singleton] at hm
        rcases hm with hm | rfl
        · exact hz (FloatOrder.lt_of_lt_of_le hlt (h.le_last (List.mem_append_right old hm)))
        · exact hz hlt
      refine .inl ⟨List.filter_eq_nil_iff.2 fun event hm => ?_, hnone⟩
      simpa using hnone event hm

/-- Being later than a series of events is being later than its end. -/
theorem InOrder.later_iff {old : List Event} (h : InOrder old) {event : Event}
    (hpos : 0 < event.timestamp) :
    ((old.getLast?.map (·.timestamp)).getD 0 < event.timestamp) ↔
      ∀ e ∈ old, e.timestamp < event.timestamp := by
  rcases old.eq_nil_or_concat' with rfl | ⟨init, z, rfl⟩
  · simpa using hpos
  · simp only [List.getLast?_concat, Option.map_some, Option.getD_some]
    refine ⟨fun hz e hm => ?_, fun hall => hall z (by simp)⟩
    rw [List.mem_append, List.mem_singleton] at hm
    rcases hm with hm | rfl
    · exact FloatOrder.lt_of_le_of_lt (h.le_last hm) hz
    · exact hz

/-! ### A series of writes -/

/-- Each record extends the one before, its events have positive times in order, and the remote
store tells the time of the last event that it has got. -/
structure Orderly (ws : List Write) : Prop where
  extending : ws.Pairwise fun u v => u.record.events <+: v.record.events
  positive : ∀ w ∈ ws, ∀ event ∈ w.record.events, 0 < event.timestamp
  ordered : ∀ w ∈ ws, InOrder w.record.events
  told : ∀ past w cursor, past ++ [w] <+: ws → w.reply = .ok cursor →
    cursor.lastTimestamp = (storedEvents (past ++ [w])).getLast?.map (·.timestamp)

/-- Each write sends what is later than the cut-off. -/
def SendsLater (ws : List Write) : Prop :=
  ∀ past w, past ++ [w] <+: ws →
    w.sent = w.record.events.filter fun event => cutOff past < event.timestamp

/-- What is stored, beside the last acknowledged record. -/
structure Progress (ws : List Write) : Prop where
  part : (storedEvents ws).Sublist (acknowledgedEvents ws)
  behind : ∀ event ∈ acknowledgedEvents ws, ¬ cutOff ws < event.timestamp
  cutOff_eq : cutOff ws = ((storedEvents ws).getLast?.map (·.timestamp)).getD 0
  exact_iff : storedEvents ws = acknowledgedEvents ws ↔
    (ws.filter (·.isAcknowledged)).IsChain Write.Later

theorem progress_nil : Progress [] where
  part := .slnil
  behind := by simp [acknowledgedEvents]
  cutOff_eq := rfl
  exact_iff := by simp [storedEvents, acknowledgedEvents]

/-- A failed write changes nothing. -/
theorem Progress.append_error {cause : RemoteError} (h : Progress ws)
    (hw : w.reply = .error cause) : Progress (ws ++ [w]) := by
  have hnot : w.isAcknowledged = false := by simp [Write.isAcknowledged, hw, Except.toOption]
  have hfilter : (ws ++ [w]).filter (·.isAcknowledged) = ws.filter (·.isAcknowledged) := by
    simp [List.filter_append, hnot]
  have hstored : storedEvents (ws ++ [w]) = storedEvents ws := by
    simp [storedEvents_append, Write.stored, hnot]
  have hack : acknowledgedEvents (ws ++ [w]) = acknowledgedEvents ws := by
    rw [acknowledgedEvents, hfilter, acknowledgedEvents]
  refine ⟨?_, ?_, ?_, ?_⟩
  · rw [hstored, hack]
    exact h.part
  · rw [hack, cutOff_append_error hw]
    exact h.behind
  · rw [hstored, cutOff_append_error hw]
    exact h.cutOff_eq
  · rw [hstored, hack, hfilter]
    exact h.exact_iff

/-- The two parts of what is stored can be told apart by their lengths. -/
theorem append_eq_append_iff_of_sublist {α : Type} {a b c d : List α} (hac : a.Sublist c)
    (hbd : b.Sublist d) : a ++ b = c ++ d ↔ a = c ∧ b = d := by
  refine ⟨fun h => ?_, fun ⟨h, h'⟩ => by rw [h, h']⟩
  have hlen := congrArg List.length h
  rw [List.length_append, List.length_append] at hlen
  have hac' := hac.length_le
  have hbd' := hbd.length_le
  exact ⟨hac.eq_of_length (by omega), hbd.eq_of_length (by omega)⟩

/-- As long as everything is stored, what is continued later than it ended goes through whole. -/
theorem Progress.filter_eq_self_iff (h : Progress ws) {new : List Event}
    (heq : storedEvents ws = acknowledgedEvents ws)
    (hord : InOrder (acknowledgedEvents ws ++ new))
    (hpos : ∀ event ∈ new, 0 < event.timestamp) :
    (new.filter fun event => cutOff ws < event.timestamp) = new ↔
      ∀ event ∈ new, ∀ old ∈ acknowledgedEvents ws, old.timestamp < event.timestamp := by
  have hordered : InOrder (acknowledgedEvents ws) := (List.pairwise_append.1 hord).1
  rw [List.filter_eq_self]
  refine forall₂_congr fun event hm => ?_
  rw [decide_eq_true_eq, h.cutOff_eq, heq]
  exact hordered.later_iff (hpos event hm)

theorem Progress.append_ok {cursor : RemoteCursor} (h : Progress ws) (hw : w.reply = .ok cursor)
    (hext : acknowledgedEvents ws <+: w.record.events)
    (hpos : ∀ event ∈ w.record.events, 0 < event.timestamp) (hord : InOrder w.record.events)
    (htold : cursor.lastTimestamp =
      (storedEvents (ws ++ [w])).getLast?.map (·.timestamp))
    (hsent : w.sent = w.record.events.filter fun event => cutOff ws < event.timestamp) :
    Progress (ws ++ [w]) := by
  obtain ⟨new, hnew⟩ := hext
  have hw' : w.isAcknowledged = true := by simp [Write.isAcknowledged, hw, Except.toOption]
  have hfilter : (ws ++ [w]).filter (·.isAcknowledged) =
      ws.filter (·.isAcknowledged) ++ [w] := by
    simp [List.filter_append, hw']
  have hack : acknowledgedEvents (ws ++ [w]) = acknowledgedEvents ws ++ new := by
    simp [acknowledgedEvents, hfilter, ← hnew]
  have hold : (acknowledgedEvents ws).filter (fun event => cutOff ws < event.timestamp) = [] :=
    List.filter_eq_nil_iff.2 fun event hm => by simpa using h.behind event hm
  have hstored : storedEvents (ws ++ [w]) = storedEvents ws ++
      new.filter fun event => cutOff ws < event.timestamp := by
    rw [storedEvents_append, Write.stored, if_pos hw', hsent, ← hnew, List.filter_append, hold,
      List.nil_append]
  have hcut : cutOff (ws ++ [w]) =
      ((storedEvents (ws ++ [w])).getLast?.map (·.timestamp)).getD 0 := by
    rw [cutOff_append_ok hw, htold]
  rw [← hnew] at hord hpos
  -- Of the events that are new, those later than the cut-off are sent, and no other events are.
  refine ⟨?_, ?_, hcut, ?_⟩
  · rw [hstored, hack]
    exact h.part.append List.filter_sublist
  · rw [hack, hcut, hstored]
    rcases hord.filter_cases (cutOff ws) with ⟨hnil, hnone⟩ | ⟨z, hz, hlast⟩
    · -- Nothing was sent, so that the cut-off stays, and the new events are not later than it.
      rw [hnil, List.append_nil, ← h.cutOff_eq]
      intro event hm
      rw [List.mem_append] at hm
      exact hm.elim (h.behind event) (hnone event)
    · simpa [List.getLast?_append, hz] using hlast
  · rw [hstored, hack, hfilter, append_eq_append_iff_of_sublist h.part List.filter_sublist,
      List.isChain_append, ← h.exact_iff]
    refine and_congr_right fun heq => ?_
    rw [h.filter_eq_self_iff heq hord fun event hm => hpos event (List.mem_append_right _ hm)]
    cases hlast : (ws.filter (·.isAcknowledged)).getLast? with
    | none =>
      have hnil : acknowledgedEvents ws = [] := by rw [acknowledgedEvents, hlast]; rfl
      simp [hnil]
    | some u =>
      have hu : acknowledgedEvents ws = u.record.events := by rw [acknowledgedEvents, hlast]; rfl
      simp [Write.Later, ← hnew, hu]

theorem Orderly.extends_acknowledged (h : Orderly (ws ++ [w])) :
    acknowledgedEvents ws <+: w.record.events := by
  rw [acknowledgedEvents]
  cases hlast : (ws.filter (·.isAcknowledged)).getLast? with
  | none => exact List.nil_prefix
  | some u =>
    have hu : u ∈ ws := (List.mem_filter.1 (List.mem_of_getLast? hlast)).1
    exact (List.pairwise_append.1 h.extending).2.2 u hu w (by simp)

theorem Orderly.of_append (h : Orderly (ws ++ [w])) : Orderly ws where
  extending := (List.pairwise_append.1 h.extending).1
  positive := fun u hu => h.positive u (List.mem_append_left _ hu)
  ordered := fun u hu => h.ordered u (List.mem_append_left _ hu)
  told := fun past u cursor hp =>
    h.told past u cursor (hp.trans (List.prefix_append ws [w]))

theorem orderly_nil : Orderly [] where
  extending := .nil
  positive := by simp
  ordered := by simp
  told := by simp

theorem Orderly.append (h : Orderly ws)
    (hext : ∀ u ∈ ws, u.record.events <+: w.record.events)
    (hpos : ∀ event ∈ w.record.events, 0 < event.timestamp) (hord : InOrder w.record.events)
    (htold : ∀ cursor, w.reply = .ok cursor →
      cursor.lastTimestamp = (storedEvents (ws ++ [w])).getLast?.map (·.timestamp)) :
    Orderly (ws ++ [w]) := by
  refine ⟨?_, ?_, ?_, ?_⟩
  · exact List.pairwise_append.2 ⟨h.extending, by simp, fun u hu v hv => by
      obtain rfl := List.mem_singleton.1 hv
      exact hext u hu⟩
  · intro u hu
    rcases List.mem_append.1 hu with hu | hu
    · exact h.positive u hu
    · obtain rfl := List.mem_singleton.1 hu
      exact hpos
  · intro u hu
    rcases List.mem_append.1 hu with hu | hu
    · exact h.ordered u hu
    · obtain rfl := List.mem_singleton.1 hu
      exact hord
  · intro past u cursor hp hu
    -- A prefix that is not everything was there before.
    rcases List.prefix_concat_iff.1 hp with heq | hp
    · obtain ⟨rfl, hw⟩ := List.append_inj' heq rfl
      obtain rfl : u = w := by simpa using hw
      exact htold cursor hu
    · exact h.told past u cursor hp hu

/-- The invariant holds after every series of writes. -/
theorem Orderly.progress (h : Orderly ws) (hsends : SendsLater ws) : Progress ws := by
  induction ws using List.reverseRecOn with
  | nil => exact progress_nil
  | append_singleton ws w ih =>
    have hws := ih h.of_append fun past u hp =>
      hsends past u (hp.trans (List.prefix_append ws [w]))
    cases hw : w.reply with
    | error cause => exact hws.append_error hw
    | ok cursor =>
      exact hws.append_ok hw h.extends_acknowledged (h.positive w (by simp))
        (h.ordered w (by simp)) (h.told ws w cursor (List.prefix_refl _) hw)
        (hsends ws w (List.prefix_refl _))

end DialogueStore
