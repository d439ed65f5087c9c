/-
What anonymizing a record rewrites, and what it leaves alone.

`Record.userTexts` says what a user wrote in a record, but not what else stands there.
Here a record before and after are compared as wholes: at each place of an event, at any
depth, there is the same as before, or it is one of two places and the text there has been
rewritten (`Json.Rewrites`).

* `Event.rewrites_anonymize` — what is rewritten in an event,
* `Record.anonymize_merge` — merged records may be anonymized before or after,
* `Record.eventsAfter_anonymize` — a cut by time falls between the same events,
* `Record.anonymize_only_user_texts` — these together, with what becomes of a record.

Design notes: a value is told by what there is at each place in it (`Json.at?`), and of an
array or an object it is enough to tell the number of its items or the keys of its
members (`Json.outline`), since what these hold is at other places.
-/
import Mathlib.Data.List.Forall2
import DialogueStore.Proofs.UserTexts

namespace DialogueStore

namespace Json

/-! ### Places in a value -/

/-- A step into a value: to a member of an object, or to an item of an array. -/
inductive Step
  | member (key : String)
  | item (i : Nat)
  deriving DecidableEq

/-- An item of an array. -/
def item? : Json → Nat → Option Json
  | .array items, i => items[i]?
  | _, _ => none

/-- What there is at the end of a way into a value. -/
def at? : List Step → Json → Option Json
  | [], v => some v
  | .member key :: way, v => (v.get? key).bind (at? way)
  | .item i :: way, v => (v.item? i).bind (at? way)

/-- A value without what its items and members hold. -/
def outline : Json → Json
  | .array items => .array (items.map fun _ => .null)
  | .object members => .object (members.map fun m => (m.1, .null))
  | v => v

/-- One value is another one with the texts at some places rewritten.  At these places, what is no
text is the same as before, and so is everything at any other place. -/
def Rewrites (f : String → String) (places : List (List Step)) (v w : Json) : Prop :=
  ∀ way, (at? way w).map outline =
    (at? way v).map fun x => if way ∈ places then mapText f x.outline else x.outline

variable {f : String → String} {g : Json → Json} {places more : List (List Step)} {v w x : Json}

theorem outline_mapText : (mapText f v).outline = mapText f v.outline := by
  cases v <;> rfl

theorem outline_adjust (key : String) : (v.adjust key g).outline = v.outline := by
  have hkeys : ∀ members : Dict Json, (object members).outline =
      object (members.keys.map (·, null)) := by
    intro members
    rw [outline, Dict.keys, List.map_map]
    rfl
  cases v with
  | object members => rw [adjust, hkeys, Dict.keys_adjust, ← hkeys]
  | null | bool _ | number _ | string _ | array _ => rfl

theorem get?_adjust_of_ne {key other : String} (h : key ≠ other) :
    (v.adjust key g).get? other = v.get? other := by
  cases v with
  | object members => rw [adjust, get?, get?, Dict.get?_adjust, if_neg h]
  | null | bool _ | number _ | string _ | array _ => rfl

theorem item?_adjust (key : String) (i : Nat) : (v.adjust key g).item? i = v.item? i := by
  cases v <;> rfl

/-- A text is rewritten where it stands. -/
theorem rewrites_mapText : Rewrites f [[]] v (mapText f v) := by
  intro way
  cases way with
  | nil => simp [at?, outline_mapText]
  | cons step way =>
    have hstep : at? (step :: way) (mapText f v) = at? (step :: way) v := by
      cases step <;> cases v <;> rfl
    simp [hstep]

/-- What is rewritten in a member is rewritten in the object, one step further. -/
theorem Rewrites.adjust (key : String) (h : ∀ x, Rewrites f places x (g x)) :
    Rewrites f (places.map (.member key :: ·)) v (v.adjust key g) := by
  intro way
  cases way with
  | nil => simp [at?, outline_adjust]
  | cons step way =>
    cases step with
    | item i => simp [at?, item?_adjust]
    | member k =>
      -- Only ways through the member that is adjusted see the change.
      by_cases hk : key = k
      · subst hk
        rw [at?, at?, get?_adjust]
        cases v.get? key with
        | none => rfl
        | some x => simpa using h x way
      · simp [at?, get?_adjust_of_ne hk, hk]

/-- Rewriting at some places and then at others. -/
theorem Rewrites.append (h : Rewrites f places v w) (h' : Rewrites f more w x)
    (hdisjoint : ∀ way ∈ places, way ∉ more) : Rewrites f (places ++ more) v x := by
  intro way
  have hw := h way
  have hx := h' way
  -- No text is rewritten twice, since a place is among the first ones or among the others.
  by_cases hplace : way ∈ places
  · have hmore := hdisjoint way hplace
    simp only [hplace, hmore, if_true, if_false, List.mem_append, true_or] at hw hx ⊢
    rw [hx, hw]
  · simp only [hplace, if_false, List.mem_append, false_or] at hw ⊢
    by_cases hmore : way ∈ more
    · simp only [hmore, if_true] at hx ⊢
      calc (at? way x).map outline
          = ((at? way w).map outline).map (mapText f) := by rw [hx, Option.map_map]; rfl
        _ = ((at? way v).map outline).map (mapText f) := by rw [hw]
        _ = (at? way v).map fun y => mapText f y.outline := by rw [Option.map_map]; rfl
    · simp only [hmore, if_false] at hx ⊢
      rw [hx, hw]

end Json

/-! ### Events -/

namespace Event

variable {f : String → String} {e : Event}

/-- The places in an event at which there may be a text by the user. -/
def textPlaces : List (List Json.Step) :=
  [[.member "text"], [.member "parse_data", .member "text"]]

/-- One event is another one with what a user wrote in it rewritten, and nothing else. -/
structure Rewritten (f : String → String) (e e' : Event) : Prop where
  kind : e'.kind = e.kind
  timestamp : e'.timestamp = e.timestamp
  byUser : e.isUser = true → Json.Rewrites f textPlaces (.object e.fields) (.object e'.fields)
  byOthers : e.isUser = false → e' = e

theorem rewrites_rewriteText :
    Json.Rewrites f textPlaces (.object e.fields) (.object (e.rewriteText f).fields) := by
  have hadjust : ∀ v : Json, Json.Rewrites f [[.member "text"]] v
      (v.adjust "text" (Json.mapText f)) :=
    fun v => Json.Rewrites.adjust "text" fun _ => Json.rewrites_mapText
  have htext := hadjust (.object e.fields)
  have hparsed : Json.Rewrites f [[.member "parse_data", .member "text"]]
      ((Json.object e.fields).adjust "text" (Json.mapText f)) (.object (e.rewriteText f).fields) :=
    Json.Rewrites.adjust "parse_data" hadjust
  exact htext.append hparsed (by decide)

/-- **What anonymizing rewrites in an event.** -/
theorem rewritten_anonymize (f : String → String) (e : Event) : Rewritten f e (e.anonymize f) := by
  cases huser : e.isUser with
  | true =>
    rw [anonymize, if_pos huser]
    exact ⟨rfl, rfl, fun _ => rewrites_rewriteText, fun h => by simp [huser] at h⟩
  | false =>
    rw [anonymize, if_neg (by simp [huser])]
    exact ⟨rfl, rfl, fun h => by simp [huser] at h, fun _ => rfl⟩

end Event

/-! ### Records -/

namespace Record

variable {f : String → String}

/-- One record is another one with what a user wrote in it rewritten, and nothing else. -/
structure Rewritten (f : String → String) (r r' : Record) : Prop where
  senderId : r'.senderId = r.senderId
  events : List.Forall₂ (Event.Rewritten f) r.events r'.events
  latestEventTime : r'.latestEventTime = r.latestEventTime
  latestText : r'.latestMessage.map (·.text) = r.latestMessage.map fun m => m.text.map f
  latestFields : r'.latestMessage.map (·.fields) = r.latestMessage.map (·.fields)
  extra : r'.extra = r.extra

theorem rewritten_anonymize (f : String → String) (r : Record) :
    Rewritten f r (r.anonymize f) where
  senderId := rfl
  events := by
    rw [anonymize, List.forall₂_map_right_iff, List.forall₂_same]
    exact fun e _ => e.rewritten_anonymize f
  latestEventTime := rfl
  latestText := Option.map_map ..
  latestFields := Option.map_map ..
  extra := rfl

/-- **A merged record may be anonymized before or after.** -/
theorem anonymize_merge (f : String → String) (sender : String) (cached? : Option Record)
    (remote : Record) (cap : Nat) : (merge sender cached? remote cap).anonymize f =
      merge sender (cached?.map (anonymize f)) (remote.anonymize f) cap := by
  cases cached? with
  | none =>
    have hsender : (remote.anonymize f).senderId = remote.senderId := rfl
    rw [merge, Option.map_none, merge, hsender]
    split <;> rfl
  | some cached =>
    -- Whether a snapshot is windowed depends on the number of its events, which stays.
    have hevents : (if isWindowed remote.events.length cap then remote.events
          else cached.events ++ remote.events).map (Event.anonymize f) =
        if isWindowed (remote.events.map (Event.anonymize f)).length cap then
          remote.events.map (Event.anonymize f)
        else cached.events.map (Event.anonymize f) ++ remote.events.map (Event.anonymize f) := by
      rw [apply_ite (List.map _), List.map_append, List.length_map]
    have hmessage : (remote.latestMessage.or cached.latestMessage).map (LatestMessage.mapText f) =
        (remote.latestMessage.map (LatestMessage.mapText f)).or
          (cached.latestMessage.map (LatestMessage.mapText f)) := Option.map_or ..
    simp only [merge, anonymize, Option.map_some, hevents, hmessage]
    rfl

/-- The time of an event stays, so that a cut by time falls between the same events. -/
theorem eventsAfter_anonymize (f : String → String) (r : Record) (time : Float) :
    (r.anonymize f).eventsAfter time = (r.eventsAfter time).map (Event.anonymize f) := by
  simp only [eventsAfter, anonymize, List.filter_map, Function.comp_def,
    Event.timestamp_anonymize]

/-- **Anonymizing touches only what a user wrote, and may be done before merging and cutting or
after.**  Of a merged record it does not matter whether it is anonymized or the two that it is made
of, and neither does it of the part of a record after a time.  And what is anonymized is the
same record, with the texts in it rewritten that a user wrote: the text of the latest message,
and in each event by the user the text and the parsed text. -/
theorem anonymize_only_user_texts (f : String → String) :
    (∀ sender cached? remote cap, (merge sender cached? remote cap).anonymize f =
      merge sender (cached?.map (anonymize f)) (remote.anonymize f) cap) ∧
    (∀ (r : Record) time, (r.withEvents (r.eventsAfter time)).anonymize f =
      (r.anonymize f).withEvents ((r.anonymize f).eventsAfter time)) ∧
    ∀ r, Rewritten f r (r.anonymize f) := by
  refine ⟨anonymize_merge f, ?_, rewritten_anonymize f⟩
  intro r time
  rw [eventsAfter_anonymize]
  rfl

end Record

end DialogueStore
