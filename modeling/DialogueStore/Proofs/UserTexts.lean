/-
What a user wrote, as it stands in a record.

`Record.userTexts` lists the texts of a record that a user wrote, wherever they
stand.  To anonymize a record is to rewrite these (`Record.userTexts_anonymize`), and it
leaves alone the records all of whose texts stay as they are
(`Record.anonymize_eq_self_iff`).  A merged record has no other texts than the two that
it is made of (`Record.mem_userTexts_merge`).
-/
import Mathlib.Data.List.Basic
import DialogueStore.Conversation.Anonymize
import DialogueStore.Conversation.Merge
import DialogueStore.Proofs.Maps

namespace DialogueStore

namespace Json

variable {f : String → String} {g : Json → Json} {key : String} {v : Json}

theorem mapText_eq_self_iff : mapText f v = v ↔ ∀ s ∈ v.text?, f s = s := by
  cases v <;> simp [mapText, text?]

theorem text?_mapText : (mapText f v).text? = v.text?.map f := by
  cases v <;> rfl

theorem adjust_eq_self_iff : v.adjust key g = v ↔ ∀ w ∈ v.get? key, g w = w := by
  cases v with
  | object members => rw [adjust, object.injEq, Dict.adjust_eq_self_iff, get?]
  | null | bool _ | number _ | string _ | array _ => simp [adjust, get?]

theorem get?_adjust (key : String) (g : Json → Json) (v : Json) :
    (v.adjust key g).get? key = (v.get? key).map g := by
  cases v with
  | object members => rw [adjust, get?, get?, Dict.get?_adjust, if_pos rfl]
  | null | bool _ | number _ | string _ | array _ => rfl

end Json

namespace Event

variable {f : String → String} {e : Event}

/-- The text of the message as it was parsed, if the event carries one. -/
def parsedText? (e : Event) : Option String :=
  ((e.field? "parse_data").bind fun v => v.get? "text").bind Json.text?

/-- The texts in an event that a user wrote. -/
def userTexts (e : Event) : List String :=
  if e.isUser then e.text?.toList ++ e.parsedText?.toList else []

theorem isUser_anonymize : (e.anonymize f).isUser = e.isUser := by
  rw [anonymize]
  split <;> rfl

theorem timestamp_anonymize : (e.anonymize f).timestamp = e.timestamp := by
  rw [anonymize]
  split <;> rfl

theorem text?_rewriteText : (e.rewriteText f).text? = e.text?.map f := by
  have hfield : (e.rewriteText f).field? "text" = (e.field? "text").map (Json.mapText f) := by
    rw [rewriteText, field?, field?, Dict.get?_adjust, if_neg (by decide), Dict.get?_adjust,
      if_pos rfl]
  rw [text?, hfield, text?]
  cases e.field? "text" with
  | none => rfl
  | some v => exact Json.text?_mapText

theorem parsedText?_rewriteText : (e.rewriteText f).parsedText? = e.parsedText?.map f := by
  have hfield : (e.rewriteText f).field? "parse_data" =
      (e.field? "parse_data").map (Json.adjust "text" (Json.mapText f)) := by
    rw [rewriteText, field?, field?, Dict.get?_adjust, if_pos rfl, Dict.get?_adjust,
      if_neg (by decide)]
  rw [parsedText?, hfield, parsedText?]
  cases e.field? "parse_data" with
  | none => rfl
  | some v =>
    simp only [Option.map_some, Option.bind_some, Json.get?_adjust]
    cases v.get? "text" with
    | none => rfl
    | some w => exact Json.text?_mapText

theorem userTexts_anonymize : (e.anonymize f).userTexts = e.userTexts.map f := by
  rw [userTexts, isUser_anonymize, userTexts]
  split
  · rename_i huser
    rw [anonymize, if_pos huser, text?_rewriteText, parsedText?_rewriteText, List.map_append]
    cases e.text? <;> cases e.parsedText? <;> rfl
  · rfl

theorem rewriteText_eq_self_iff : e.rewriteText f = e ↔
    (∀ text ∈ e.text?, f text = text) ∧ ∀ text ∈ e.parsedText?, f text = text := by
  -- Only the members can change, and the two keys that are adjusted are not the same.
  have hfields : e.rewriteText f = e ↔ (e.rewriteText f).fields = e.fields := by
    constructor
    · intro h
      rw [h]
    · intro h
      obtain ⟨kind, timestamp, fields⟩ := e
      exact congrArg (Event.mk kind timestamp) h
  rw [hfields, rewriteText, Dict.adjust_adjust_eq_self_iff (by decide)]
  simp only [Json.mapText_eq_self_iff, Json.adjust_eq_self_iff, text?, parsedText?, field?,
    Option.mem_def, Option.bind_eq_some_iff]
  constructor
  · rintro ⟨htext, hparsed⟩
    refine ⟨?_, ?_⟩
    · rintro text ⟨v, hv, ht⟩
      exact htext v hv text ht
    · rintro text ⟨w, ⟨v, hv, hw⟩, ht⟩
      exact hparsed v hv w hw text ht
  · rintro ⟨htext, hparsed⟩
    refine ⟨?_, ?_⟩
    · intro v hv text ht
      exact htext text ⟨v, hv, ht⟩
    · intro v hv w hw text ht
      exact hparsed text ⟨w, ⟨v, hv, hw⟩, ht⟩

theorem anonymize_eq_self_iff : e.anonymize f = e ↔ ∀ text ∈ e.userTexts, f text = text := by
  rw [anonymize, userTexts]
  split
  · rw [rewriteText_eq_self_iff]
    simp only [List.mem_append, Option.mem_toList, Option.mem_def, or_imp, forall_and]
  · simp

end Event

namespace LatestMessage

variable {f : String → String} {m : LatestMessage}

theorem mapText_eq_self_iff : m.mapText f = m ↔ ∀ text ∈ m.text, f text = text := by
  obtain ⟨text, fields⟩ := m
  cases text <;> simp [mapText]

end LatestMessage

/-- The texts in some events that a user wrote. -/
def userTextsOf (events : List Event) : List String := events.flatMap Event.userTexts

theorem map_anonymize_eq_self_iff {f : String → String} {events : List Event} :
    events.map (Event.anonymize f) = events ↔ ∀ text ∈ userTextsOf events, f text = text := by
  have hmap : events.map (Event.anonymize f) = events ↔
      ∀ event ∈ events, event.anonymize f = event := by
    conv_lhs => rw [← List.map_id events, List.map_map]
    exact List.map_inj_left
  rw [hmap]
  simp only [Event.anonymize_eq_self_iff, userTextsOf, List.mem_flatMap]
  constructor
  · rintro h text ⟨event, hevent, htext⟩
    exact h event hevent text htext
  · intro h event hevent text htext
    exact h text ⟨event, hevent, htext⟩

namespace Record

variable {f : String → String} {r : Record}

/-- The text of the latest message. -/
def latestText? (r : Record) : Option String := r.latestMessage.bind LatestMessage.text

/-- The texts in a record that a user wrote. -/
def userTexts (r : Record) : List String := r.latestText?.toList ++ userTextsOf r.events

/-- **Anonymizing a record rewrites all texts that a user wrote.** -/
theorem userTexts_anonymize : (r.anonymize f).userTexts = r.userTexts.map f := by
  have hlatest : (r.anonymize f).latestText? = r.latestText?.map f := by
    rw [anonymize, latestText?, latestText?]
    cases r.latestMessage <;> rfl
  have hevents : userTextsOf (r.anonymize f).events = (userTextsOf r.events).map f := by
    rw [anonymize, userTextsOf, userTextsOf, List.flatMap_map, List.map_flatMap]
    simp only [Event.userTexts_anonymize]
  rw [userTexts, hlatest, hevents, userTexts, List.map_append]
  cases r.latestText? <;> rfl

/-- **The records that anonymizing leaves as they are.** -/
theorem anonymize_eq_self_iff : r.anonymize f = r ↔ ∀ text ∈ r.userTexts, f text = text := by
  have hparts : r.anonymize f = r ↔ r.events.map (Event.anonymize f) = r.events ∧
      r.latestMessage.map (LatestMessage.mapText f) = r.latestMessage := by
    obtain ⟨senderId, events, latestEventTime, latestMessage, extra⟩ := r
    simp [anonymize]
  have hlatest : r.latestMessage.map (LatestMessage.mapText f) = r.latestMessage ↔
      ∀ text ∈ r.latestText?, f text = text := by
    rw [latestText?]
    cases r.latestMessage with
    | none => simp
    | some m => simp [LatestMessage.mapText_eq_self_iff]
  rw [hparts, map_anonymize_eq_self_iff, hlatest, userTexts]
  simp only [List.mem_append, Option.mem_toList, Option.mem_def, or_imp, forall_and, and_comm]

/-- A record with fewer events has fewer texts. -/
theorem mem_userTexts_withEvents {events : List Event} {text : String}
    (hevents : ∀ event ∈ events, event ∈ r.events) (h : text ∈ (r.withEvents events).userTexts) :
    text ∈ r.userTexts := by
  rw [userTexts, List.mem_append] at h ⊢
  refine h.imp_right ?_
  intro htext
  obtain ⟨event, hevent, htext⟩ := List.mem_flatMap.1 htext
  exact List.mem_flatMap.2 ⟨event, hevents event hevent, htext⟩

/-- **A merged record has its texts from the two records that it is made of.** -/
theorem mem_userTexts_merge {sender : String} {cached : Option Record} {remote : Record}
    {maxEvents : Nat} {text : String}
    (h : text ∈ (Record.merge sender cached remote maxEvents).userTexts) :
    text ∈ remote.userTexts ∨ ∃ r ∈ cached, text ∈ r.userTexts := by
  cases cached with
  | none =>
    rw [merge] at h
    split at h <;> exact .inl h
  | some here =>
    simp only [merge, userTexts, latestText?, List.mem_append, Option.mem_toList] at h
    rcases h with h | h
    · -- The latest message is the remote one, or else the cached one.
      cases hmessage : remote.latestMessage with
      | none =>
        rw [hmessage, Option.none_or] at h
        exact .inr ⟨here, rfl, List.mem_append_left _ (Option.mem_toList.2 h)⟩
      | some m =>
        rw [hmessage, Option.some_or] at h
        refine .inl (List.mem_append_left _ (Option.mem_toList.2 ?_))
        rw [latestText?, hmessage]
        exact h
    · split at h
      · exact .inl (List.mem_append_right _ h)
      · rw [userTextsOf, List.flatMap_append, List.mem_append] at h
        rcases h with h | h
        · exact .inr ⟨here, rfl, List.mem_append_right _ h⟩
        · exact .inl (List.mem_append_right _ h)

end Record

end DialogueStore
