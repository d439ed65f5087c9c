/-
The laws of merging.

What is fetched in two parts is merged in two steps: the first part into what is
cached, and the second part into what comes of it.  One would like to get the same
from merging the second part into the first and the whole of it into what is cached.
For four of the five parts of a record it is the same; the events are what it hangs on,
since an answer of as many events as were asked for replaces what was there, and two
parts may be so many together, or one of them alone.

* `Record.merge_merge_iff` — it is the same just if the events are,
* `Record.events_merge_merge_iff` — which they are away from the window's edge,
* `Record.merge_associates` — both, and that no cached record counts as an empty one.

Design notes: the other members of a record are a map, and a list of entries is a map
just if it is in order.  `MapOrder.lean` shows that those of all records are, from the
text on in which they come.
-/
import DialogueStore.Conversation.Merge
import DialogueStore.Proofs.Maps

namespace DialogueStore

namespace Record

variable {sender : String} {cached first second : Record} {cap : Nat}

/-- Fetched events continue the cached ones, or replace them if they are as many as were asked
for. -/
theorem events_merge (sender : String) (local? : Option Record) (remote : Record)
    (cap : Nat) : (merge sender local? remote cap).events =
      if remote.events.length = cap then remote.events
      else (local?.map (·.events)).getD [] ++ remote.events := by
  cases local? with
  | none =>
    rw [merge]
    split <;> simp
  | some cached => simp [merge, isWindowed]

/-- Merging in two steps may give other events than merging at once, but nothing else. -/
theorem merge_merge_iff (hcached : cached.extra.Sorted) (hfirst : first.extra.Sorted)
    (hsecond : second.extra.Sorted) :
    merge sender (some (merge sender (some cached) first cap)) second cap =
        merge sender (some cached) (merge sender (some first) second cap) cap ↔
      (merge sender (some (merge sender (some cached) first cap)) second cap).events =
        (merge sender (some cached) (merge sender (some first) second cap) cap).events := by
  constructor
  · intro h
    rw [h]
  · intro h
    -- All but the events associate anyway.
    have hsender :
        (merge sender (some (merge sender (some cached) first cap)) second cap).senderId =
          (merge sender (some cached) (merge sender (some first) second cap) cap).senderId := by
      by_cases hempty : second.senderId.isEmpty <;> simp [merge, hempty]
    have hextra := Dict.union_assoc hcached hfirst hsecond
    rw [merge, mk.injEq]
    exact ⟨hsender, h, Option.or_assoc.symm, Option.or_assoc.symm, hextra⟩

/-- Of two answers, the second one has as many events as were asked for, or the first one has and
the second one has none, or neither of them has so many events, nor have both together. -/
def AwayFromEdge (first second : Record) (cap : Nat) : Prop :=
  second.events.length = cap ∨ first.events.length = cap ∧ second.events = [] ∨
    first.events.length ≠ cap ∧ second.events.length ≠ cap ∧
      first.events.length + second.events.length ≠ cap

/-- The events are the same away from the window's edge, and everywhere if none are cached. -/
theorem events_merge_merge_iff :
    (merge sender (some (merge sender (some cached) first cap)) second cap).events =
        (merge sender (some cached) (merge sender (some first) second cap) cap).events ↔
      cached.events = [] ∨ AwayFromEdge first second cap := by
  have hkept : ∀ events : List Event, events = cached.events ++ events ↔ cached.events = [] := by
    intro events
    rw [eq_comm, List.append_left_eq_self]
  simp only [events_merge, Option.map_some, Option.getD_some, AwayFromEdge]
  by_cases hsecond : second.events.length = cap
  · simp [hsecond]
  · rw [if_neg hsecond, if_neg hsecond, List.length_append]
    by_cases hfirst : first.events.length = cap
    · -- The first answer drops what is cached, and both together drop it if the second is empty.
      rw [if_pos hfirst]
      by_cases hnone : second.events = []
      · simp [hfirst, hnone]
      · have hpos := List.length_pos_iff.2 hnone
        rw [if_neg (by omega), hkept]
        simp [hfirst, hsecond, hnone]
    · rw [if_neg hfirst, List.append_assoc]
      by_cases hboth : first.events.length + second.events.length = cap
      · rw [if_pos hboth, eq_comm, hkept]
        simp [hfirst, hsecond, hboth]
      · simp [hfirst, hsecond, hboth]

/-- A conversation without a cached record is merged as if an empty one were cached. -/
theorem merge_none {remote : Record} (hremote : remote.extra.Sorted) :
    merge sender none remote cap = merge sender (some { senderId := sender }) remote cap := by
  obtain ⟨senderId, events, latestEventTime, latestMessage, extra⟩ := remote
  simp only [merge, Option.or_none, List.nil_append, ite_self, Dict.nil_union hremote]
  split <;> rfl

/-- **Away from the window's edge, merging in two steps is merging at once.**  If the second answer
is a window, or the first one is and the second one is empty, or neither of them is and both
together are none either, then it does not matter whether the answers are merged into the cached
record one after the other, or with each other first.  In all other cases it does, unless no events
are cached.  And where no record is cached, an answer is merged as into an empty record. -/
theorem merge_associates (sender : String) :
    (∀ (cached first second : Record) (cap : Nat), cached.extra.Sorted → first.extra.Sorted →
      second.extra.Sorted →
      (merge sender (some (merge sender (some cached) first cap)) second cap =
          merge sender (some cached) (merge sender (some first) second cap) cap ↔
        cached.events = [] ∨ AwayFromEdge first second cap)) ∧
      ∀ (remote : Record) (cap : Nat), remote.extra.Sorted →
        merge sender none remote cap = merge sender (some { senderId := sender }) remote cap := by
  refine ⟨?_, ?_⟩
  · intro cached first second cap hcached hfirst hsecond
    rw [merge_merge_iff hcached hfirst hsecond, events_merge_merge_iff]
  · intro remote cap hremote
    exact merge_none hremote

/-- A record with one event, and with one other member. -/
def withMember (time : Float) (key : String) (b : Bool) : Record :=
  { senderId := "ann", events := [⟨"bot", time, []⟩], extra := [(key, .bool b)] }

theorem sorted_withMember (time : Float) (key : String) (b : Bool) :
    (withMember time key b).extra.Sorted :=
  List.pairwise_singleton ..

/-- Two answers of one event each may be merged with each other first if three events were asked
for, but not if two were. -/
theorem merge_associates_twoAnswers :
    merge "ann" (some (merge "ann" (some (withMember 1 "paused" false))
        (withMember 2 "muted" true) 3)) (withMember 3 "paused" true) 3 =
      merge "ann" (some (withMember 1 "paused" false))
        (merge "ann" (some (withMember 2 "muted" true)) (withMember 3 "paused" true) 3) 3 ∧
    merge "ann" (some (merge "ann" (some (withMember 1 "paused" false))
        (withMember 2 "muted" true) 2)) (withMember 3 "paused" true) 2 ≠
      merge "ann" (some (withMember 1 "paused" false))
        (merge "ann" (some (withMember 2 "muted" true)) (withMember 3 "paused" true) 2) 2 ∧
    merge "bob" none (withMember 1 "paused" false) 2 =
      merge "bob" (some { senderId := "bob" }) (withMember 1 "paused" false) 2 := by
  have hann := fun cap => (merge_associates "ann").1 (withMember 1 "paused" false)
    (withMember 2 "muted" true) (withMember 3 "paused" true) cap (sorted_withMember ..)
    (sorted_withMember ..) (sorted_withMember ..)
  refine ⟨(hann 3).2 ?_, fun h => ?_, (merge_associates "bob").2 _ 2 (sorted_withMember ..)⟩
  · simp [AwayFromEdge, withMember]
  · have hedge := (hann 2).1 h
    simp [AwayFromEdge, withMember] at hedge

end Record

end DialogueStore
