/-
Records are decoded again from the values that they are encoded as.

Three types read an object: an event, the latest message and the record itself.  Each of
them has fields of its own and carries all other members along, and its value has the
fields, in the types that they have, and then the other members.  So decoding this value
gives the same again, and of what was decoded only the declared members can have changed.

* `Event.decode_toJson`, `LatestMessage.decode_toJson`, `Record.decode_toJson` — a value is
  decoded to what it was made of, if that can have been decoded at all,
* `Record.kept_of_decode` — which it can,
* `Record.survives_decoding` — a record that is decoded can be encoded and decoded again, and its
  value has all other members of what it was decoded from.

All of this is about JSON values, not about texts.  Between a value and its text the doubles may
change: they are printed exactly, but the reader scales their digits in rounded steps
(`Reader.scale`).  What is left on texts is said in `DialogueStore.Proofs.TextReadBack`.

Design notes: a time that is no finite number becomes null, and null is no time.  There is no such
number in JSON, but the type of values has them, so that it is asked for (`Json.IsFinite`).
-/
import DialogueStore.Conversation.Record
import DialogueStore.Proofs.Decoding

namespace DialogueStore

namespace Json

/-! ### Values -/

/-- All numbers in a value are finite. -/
inductive IsFinite : Json → Prop
  | null : IsFinite .null
  | bool (b : Bool) : IsFinite (.bool b)
  | number {n : Number} (h : n.toFloat.isFinite = true) : IsFinite (.number n)
  | string (s : String) : IsFinite (.string s)
  | array {items : List Json} (h : ∀ v ∈ items, IsFinite v) : IsFinite (.array items)
  | object {members : Dict Json} (h : ∀ m ∈ members, IsFinite m.2) : IsFinite (.object members)

theorem isFinite_number {n : Number} :
    IsFinite (.number n) ↔ n.toFloat.isFinite = true := ⟨fun | .number h => h, .number⟩

theorem isFinite_array {items : List Json} :
    IsFinite (.array items) ↔ ∀ v ∈ items, IsFinite v := ⟨fun | .array h => h, .array⟩

theorem isFinite_object {members : Dict Json} :
    IsFinite (.object members) ↔ ∀ m ∈ members, IsFinite m.2 := ⟨fun | .object h => h, .object⟩

theorem IsFinite.get? {v w : Json} {key : String} (h : v.IsFinite) (hw : v.get? key = some w) :
    w.IsFinite := by
  cases v with
  | null | bool _ | number _ | string _ | array _ => cases hw
  | object members => exact isFinite_object.1 h (key, w) (Dict.mem_of_get? hw)

theorem IsFinite.isFinite_of_float {v : Json} {src : Source} {x : Float} (h : v.IsFinite)
    (hv : src.toJson = .ok v) (hx : Decoder.float src = .ok x) : x.isFinite = true := by
  cases src with
  | number n =>
    cases hv
    cases hx
    exact isFinite_number.1 h
  | null | bool _ | string _ | array _ | object _ | flaw _ => cases hx

/-- Two values have the same members, whatever they have under some keys. -/
def SameBut (keys : List String) (v w : Json) : Prop := ∀ key ∉ keys, w.get? key = v.get? key

/-- The items under a key, none if there is no array. -/
def itemsAt (v : Json) (key : String) : List Json :=
  match v.get? key with
  | some (.array items) => items
  | _ => []

end Json

open Json

/-! ### Events -/

namespace Event

variable {e : Event} {src : Source} {v : Json}

theorem carries : Shape.Carries shape
    (fun e key v => { e with fields := e.fields.insert key v }) fields where
  store := by
    simp only [shape, List.forall_mem_cons]
    exact ⟨Field.isSet_required.carries Decoder.readsValues_text fun _ _ => rfl,
      Field.isSet_required.carries Decoder.readsValues_float fun _ _ => rfl, nofun⟩
  keep := fun _ _ _ => rfl

/-- What is read of an event. -/
theorem exists_of_decode (h : decode src = .ok e) : ∃ ms vs, src = .object ms ∧
    src.toJson = .ok (.object vs) ∧ shape.Read ms vs e.fields ∧
    Decoder.float.Gives 0 (Dict.get? ms "timestamp") e.timestamp := by
  cases src with
  | null | bool _ | number _ | string _ | array _ | flaw _ => cases h
  | object ms =>
    obtain ⟨vs, hread⟩ := carries.read rfl h
    refine ⟨ms, vs, rfl, ?_, hread, ?_⟩
    · rw [Source.toJson, hread.value]
      rfl
    · have hplaces : Shape.Places "timestamp" Decoder.float timestamp shape 1 :=
        .there (by decide) (Field.isSet_required.spares fun _ _ => rfl)
          (.here rfl (Field.isSet_required.tells fun _ _ => rfl) nofun)
      exact Shape.get_of_open hplaces h fun _ _ _ => rfl

theorem readsValues_decode : Decoder.ReadsValues decode := by
  intro src e h
  obtain ⟨ms, vs, -, hv, -⟩ := exists_of_decode h
  exact ⟨.object vs, hv⟩

theorem keeps_of_decode (h : decode src = .ok e) : shape.Keeps e.fields := by
  obtain ⟨ms, vs, -, -, hread, -⟩ := exists_of_decode h
  exact hread.keeps

theorem isFinite_of_decode (h : decode src = .ok e) (hv : src.toJson = .ok v)
    (hfinite : v.IsFinite) : e.timestamp.isFinite = true := by
  obtain ⟨ms, vs, -, hvs, hread, htime⟩ := exists_of_decode h
  obtain rfl : v = .object vs := Except.ok.inj (hv.symm.trans hvs)
  cases hget : Dict.get? ms "timestamp" with
  | none =>
    rw [hget] at htime
    rw [show e.timestamp = 0 from htime]
    decide
  | some src =>
    rw [hget] at htime
    obtain ⟨w, hw, hwget⟩ := hread.exists_value (List.mem_cons_of_mem _ List.mem_cons_self) hget
    exact (hfinite.get? hwget).isFinite_of_float hw htime

/-- The value of an event has all other members that it was decoded from. -/
theorem sameBut_of_decode (h : decode src = .ok e) (hv : src.toJson = .ok v) :
    v.SameBut ["event", "timestamp"] e.toJson := by
  obtain ⟨ms, vs, -, hvs, hread, -⟩ := exists_of_decode h
  obtain rfl : v = .object vs := Except.ok.inj (hv.symm.trans hvs)
  intro key hkey
  rw [List.mem_cons, List.mem_singleton, not_or] at hkey
  have hothers := hread.others key (by
    simp [shape, Field.required, Ne.symm hkey.1, Ne.symm hkey.2])
  simp only [toJson, Json.get?, Dict.get?, if_neg (Ne.symm hkey.1), if_neg (Ne.symm hkey.2)]
  exact hothers.symm

/-- **An event is decoded again from its value.** -/
theorem decode_toJson (hkeeps : shape.Keeps e.fields) (hfinite : e.timestamp.isFinite = true) :
    decode (.ofJson e.toJson) = .ok e := by
  obtain ⟨kind, timestamp, fields⟩ := e
  have htime : Json.float timestamp = .number (.float timestamp) := if_pos hfinite
  have hkept : shape.members
      (fun e key src => do return { e with fields := e.fields.insert key (← src.toJson) })
      ["timestamp", "event"] ⟨kind, timestamp, []⟩ (Source.ofJsonMembers fields) =
        .ok ⟨kind, timestamp, fields⟩ :=
    Shape.members_kept (Event.mk kind timestamp) (fun _ _ _ => rfl) hkeeps
      (by simp [shape, Field.required])
  rw [toJson, htime]
  exact (Shape.members_declared (Event.mk kind 0 []) rfl List.not_mem_nil rfl).trans
    ((Shape.members_declared (Event.mk kind timestamp []) rfl (by decide) rfl).trans hkept)

end Event

/-! ### The latest message -/

namespace LatestMessage

variable {m : LatestMessage} {src : Source} {v : Json}

theorem carries : Shape.Carries shape
    (fun m key v => { m with fields := m.fields.insert key v }) fields where
  store := by
    simp only [shape, List.forall_mem_singleton]
    exact Field.isSet_defaulted.carries Decoder.readsValues_text.optional fun _ _ => rfl
  keep := fun _ _ _ => rfl

/-- What is read of a message. -/
theorem exists_of_decode (h : decode src = .ok m) : ∃ ms vs, src = .object ms ∧
    src.toJson = .ok (.object vs) ∧ shape.Read ms vs m.fields := by
  cases src with
  | null | bool _ | number _ | string _ | array _ | flaw _ => cases h
  | object ms =>
    obtain ⟨vs, hread⟩ := carries.read rfl h
    refine ⟨ms, vs, rfl, ?_, hread⟩
    rw [Source.toJson, hread.value]
    rfl

theorem readsValues_decode : Decoder.ReadsValues decode := by
  intro src m h
  obtain ⟨ms, vs, -, hv, -⟩ := exists_of_decode h
  exact ⟨.object vs, hv⟩

theorem keeps_of_decode (h : decode src = .ok m) : shape.Keeps m.fields := by
  obtain ⟨ms, vs, -, -, hread⟩ := exists_of_decode h
  exact hread.keeps

/-- The value of a message has all other members that it was decoded from. -/
theorem sameBut_of_decode (h : decode src = .ok m) (hv : src.toJson = .ok v) :
    v.SameBut ["text"] m.toJson := by
  obtain ⟨ms, vs, -, hvs, hread⟩ := exists_of_decode h
  obtain rfl : v = .object vs := Except.ok.inj (hv.symm.trans hvs)
  intro key hkey
  rw [List.mem_singleton] at hkey
  have hothers := hread.others key (by simp [shape, Field.defaulted, Ne.symm hkey])
  simp only [toJson, Json.get?, Dict.get?, if_neg (Ne.symm hkey)]
  exact hothers.symm

/-- **A message is decoded again from its value.** -/
theorem decode_toJson (h : shape.Keeps m.fields) : decode (.ofJson m.toJson) = .ok m := by
  obtain ⟨text, fields⟩ := m
  have htext : Decoder.optional Decoder.text (.ofJson (Json.orNull .string text)) = .ok text := by
    cases text <;> rfl
  have hkept : shape.members
      (fun m key src => do return { m with fields := m.fields.insert key (← src.toJson) })
      ["text"] ⟨text, []⟩ (Source.ofJsonMembers fields) = .ok ⟨text, fields⟩ :=
    Shape.members_kept (LatestMessage.mk text) (fun _ _ _ => rfl) h
      (by simp [shape, Field.defaulted])
  have hstored : (Field.defaulted "text" (.optional .text) fun (m : LatestMessage) text =>
      { m with text }).store ⟨none, []⟩ (.ofJson (Json.orNull .string text)) = .ok ⟨text, []⟩ :=
    Field.isSet_defaulted.store_eq htext
  exact (Shape.members_declared (LatestMessage.mk text []) rfl List.not_mem_nil hstored).trans hkept

end LatestMessage

/-! ### Records -/

namespace Record

variable {r : Record} {src : Source} {v : Json}

/-- The record, its events and its latest message carry members that may have been decoded. -/
structure Kept (r : Record) : Prop where
  extra : shape.Keeps r.extra
  events : ∀ e ∈ r.events, Event.shape.Keeps e.fields
  latestMessage : ∀ m ∈ r.latestMessage, LatestMessage.shape.Keeps m.fields

/-- All times in a record are numbers. -/
structure FiniteTimes (r : Record) : Prop where
  events : ∀ e ∈ r.events, e.timestamp.isFinite = true
  latest : ∀ t ∈ r.latestEventTime, t.isFinite = true

theorem carries : Shape.Carries shape
    (fun r key v => { r with extra := r.extra.insert key v }) extra where
  store := by
    simp only [shape, List.forall_mem_cons]
    exact ⟨Field.isSet_defaulted.carries Decoder.readsValues_text fun _ _ => rfl,
      Field.isSet_defaulted.carries Event.readsValues_decode.list fun _ _ => rfl,
      Field.isSet_defaulted.carries Decoder.readsValues_float.optional fun _ _ => rfl,
      Field.isSet_defaulted.carries LatestMessage.readsValues_decode.optional fun _ _ => rfl,
      nofun⟩
  keep := fun _ _ _ => rfl

/-- What is read of a record. -/
structure IsRead (ms : List (String × Source)) (vs : Dict Json) (r : Record) : Prop where
  read : shape.Read ms vs r.extra
  events : (Decoder.list Event.decode).Gives [] (Dict.get? ms "events") r.events
  latestEventTime :
    Decoder.float.optional.Gives none (Dict.get? ms "latest_event_time") r.latestEventTime
  latestMessage : (Decoder.optional LatestMessage.decode).Gives none
    (Dict.get? ms "latest_message") r.latestMessage

theorem exists_of_decode (h : decode src = .ok r) : ∃ ms vs, src = .object ms ∧
    src.toJson = .ok (.object vs) ∧ IsRead ms vs r := by
  cases src with
  | null | bool _ | number _ | string _ | array _ | flaw _ => cases h
  | object ms =>
    obtain ⟨vs, hread⟩ := carries.read rfl h
    refine ⟨ms, vs, rfl, ?_, hread, ?_, ?_, ?_⟩
    · rw [Source.toJson, hread.value]
      rfl
    · have hplaces : Shape.Places "events" (.list Event.decode) events shape 1 :=
        .there (by decide) (Field.isSet_defaulted.spares fun _ _ => rfl)
          (.here rfl (Field.isSet_defaulted.tells fun _ _ => rfl) (List.forall_mem_cons.2
            ⟨⟨by decide, Field.isSet_defaulted.spares fun _ _ => rfl⟩, List.forall_mem_cons.2
              ⟨⟨by decide, Field.isSet_defaulted.spares fun _ _ => rfl⟩, nofun⟩⟩))
      exact Shape.get_of_open hplaces h fun _ _ _ => rfl
    · have hplaces : Shape.Places "latest_event_time" Decoder.float.optional latestEventTime
          shape 2 :=
        .there (by decide) (Field.isSet_defaulted.spares fun _ _ => rfl)
          (.there (by decide) (Field.isSet_defaulted.spares fun _ _ => rfl)
            (.here rfl (Field.isSet_defaulted.tells fun _ _ => rfl) (List.forall_mem_cons.2
              ⟨⟨by decide, Field.isSet_defaulted.spares fun _ _ => rfl⟩, nofun⟩)))
      exact Shape.get_of_open hplaces h fun _ _ _ => rfl
    · have hplaces : Shape.Places "latest_message" (.optional LatestMessage.decode) latestMessage
          shape 3 :=
        .there (by decide) (Field.isSet_defaulted.spares fun _ _ => rfl)
          (.there (by decide) (Field.isSet_defaulted.spares fun _ _ => rfl)
            (.there (by decide) (Field.isSet_defaulted.spares fun _ _ => rfl)
              (.here rfl (Field.isSet_defaulted.tells fun _ _ => rfl) nofun)))
      exact Shape.get_of_open hplaces h fun _ _ _ => rfl

/-- The events of a record are read one by one from the items of its value. -/
theorem forall₂_events (h : decode src = .ok r) (hv : src.toJson = .ok v) :
    List.Forall₂ (fun w e => ∃ src : Source, src.toJson = .ok w ∧ Event.decode src = .ok e)
      (v.itemsAt "events") r.events := by
  obtain ⟨ms, vs, -, hvs, hread⟩ := exists_of_decode h
  obtain rfl : v = .object vs := Except.ok.inj (hv.symm.trans hvs)
  have hevents := hread.events
  cases hget : Dict.get? ms "events" with
  | none =>
    -- Without the member both lists are empty.
    have hnone : Dict.get? vs "events" = none :=
      hread.read.get?_eq_none (List.mem_cons_of_mem _ List.mem_cons_self) hget
    rw [hget] at hevents
    rw [show r.events = [] from hevents, itemsAt, Json.get?, hnone]
    exact .nil
  | some esrc =>
    obtain ⟨w, hw, hwget⟩ :=
      hread.read.exists_value (List.mem_cons_of_mem _ List.mem_cons_self) hget
    rw [hget] at hevents
    obtain ⟨items, rfl, hall⟩ := Decoder.exists_of_list hevents
    rw [Source.toJson] at hw
    obtain ⟨ws, hws, hw⟩ := exists_of_bind hw
    cases hw
    have harray : Dict.get? vs "events" = some (.array ws) := hwget
    rw [itemsAt, Json.get?, harray]
    exact Decoder.forall₂_values hall hws

/-- The latest message of a record is read from its value, unless it is missing or null. -/
theorem latestMessage_cases (h : decode src = .ok r) (hv : src.toJson = .ok v) :
    (v.get? "latest_message" = none ∨ v.get? "latest_message" = some .null) ∧
        r.latestMessage = none ∨
      ∃ (w : Json) (m : LatestMessage) (src : Source), v.get? "latest_message" = some w ∧
        r.latestMessage = some m ∧ src.toJson = .ok w ∧ LatestMessage.decode src = .ok m := by
  obtain ⟨ms, vs, -, hvs, hread⟩ := exists_of_decode h
  obtain rfl : v = .object vs := Except.ok.inj (hv.symm.trans hvs)
  have hmessage := hread.latestMessage
  have hmem : Field.defaulted "latest_message" (.optional LatestMessage.decode)
      (fun (r : Record) latestMessage => { r with latestMessage }) ∈ shape := by
    simp [shape]
  -- Absent, `null` or a message: the first two are decoded alike.
  cases hget : Dict.get? ms "latest_message" with
  | none =>
    rw [hget] at hmessage
    exact .inl ⟨.inl (hread.read.get?_eq_none hmem hget), hmessage⟩
  | some msrc =>
    obtain ⟨w, hw, hwget⟩ := hread.read.exists_value hmem hget
    rw [hget] at hmessage
    rcases Decoder.optional_cases hmessage with ⟨rfl, hnone⟩ | ⟨-, m, hm, hsome⟩
    · cases hw
      exact .inl ⟨.inr hwget, hnone⟩
    · exact .inr ⟨w, m, msrc, hwget, hsome, hw, hm⟩

/-- What holds of every event that is decoded from an item holds of the events of a record. -/
theorem forall_events {P : Json → Prop} {Q : Event → Prop} (h : decode src = .ok r)
    (hv : src.toJson = .ok v) (hitems : ∀ w ∈ v.itemsAt "events", P w)
    (hevent : ∀ {src w e}, P w → src.toJson = .ok w → Event.decode src = .ok e → Q e) :
    ∀ e ∈ r.events, Q e := by
  have hboth := ((List.forall₂_and_left _ _).2 ⟨hitems, forall₂_events h hv⟩).flip
  have hall : List.Forall₂ (fun e (_ : Json) => Q e ∧ True) r.events (v.itemsAt "events") := by
    refine hboth.imp ?_
    rintro e w ⟨hw, src, hsrc, hdecoded⟩
    exact ⟨hevent hw hsrc hdecoded, trivial⟩
  exact ((List.forall₂_and_left _ _).1 hall).1

/-- What a record carries that is decoded can be decoded. -/
theorem kept_of_decode (h : decode src = .ok r) : r.Kept := by
  obtain ⟨ms, vs, -, hv, hread⟩ := exists_of_decode h
  refine ⟨hread.read.keeps, ?_, fun m hm => ?_⟩
  · exact forall_events (P := fun _ => True) h hv (fun _ _ => trivial)
      fun _ _ hdecoded => Event.keeps_of_decode hdecoded
  · rcases latestMessage_cases h hv with ⟨-, hnone⟩ | ⟨w, m', src, -, hsome, -, hdecoded⟩
    · cases hm.symm.trans hnone
    · cases hm.symm.trans hsome
      exact LatestMessage.keeps_of_decode hdecoded

/-- The times of a record are numbers if all numbers that it is decoded from are finite. -/
theorem finiteTimes_of_decode (h : decode src = .ok r) (hv : src.toJson = .ok v)
    (hfinite : v.IsFinite) : r.FiniteTimes := by
  constructor
  · refine forall_events h hv (fun w hw => ?_) fun hw hsrc hdecoded =>
      Event.isFinite_of_decode hdecoded hsrc hw
    rw [itemsAt] at hw
    split at hw
    · rename_i items hget
      exact isFinite_array.1 (hfinite.get? hget) w hw
    · cases hw
  · intro t ht
    obtain ⟨ms, vs, -, hvs, hread⟩ := exists_of_decode h
    obtain rfl : v = .object vs := Except.ok.inj (hv.symm.trans hvs)
    have htime := hread.latestEventTime
    cases hget : Dict.get? ms "latest_event_time" with
    | none =>
      rw [hget] at htime
      cases ht.symm.trans htime
    | some tsrc =>
      have hmem : Field.defaulted "latest_event_time" (.optional .float)
          (fun (r : Record) latestEventTime => { r with latestEventTime }) ∈ shape := by
        simp [shape]
      obtain ⟨w, hw, hwget⟩ := hread.read.exists_value hmem hget
      rw [hget] at htime
      rcases Decoder.optional_cases htime with ⟨-, hnone⟩ | ⟨-, t', ht', hsome⟩
      · cases ht.symm.trans hnone
      · cases ht.symm.trans hsome
        exact (hfinite.get? hwget).isFinite_of_float hw ht'

/-- What the value of a record has of the one it was decoded from: all members that are none of its
own, and the same of its events and its latest message. -/
structure Preserves (v w : Json) : Prop where
  members : v.SameBut ["sender_id", "events", "latest_event_time", "latest_message"] w
  events : List.Forall₂ (SameBut ["event", "timestamp"]) (v.itemsAt "events") (w.itemsAt "events")
  latestMessage : ∀ m, v.get? "latest_message" = some m → m ≠ .null →
    ∃ m', w.get? "latest_message" = some m' ∧ m.SameBut ["text"] m'

theorem get?_toJson_of_undeclared {key : String}
    (hkey : key ∉ ["sender_id", "events", "latest_event_time", "latest_message"]) :
    r.toJson.get? key = r.extra.get? key := by
  simp only [List.mem_cons, List.not_mem_nil, or_false, not_or] at hkey
  obtain ⟨hsender, hevents, htime, hmessage⟩ := hkey
  obtain ⟨senderId, events, time, message, extra⟩ := r
  cases time <;> cases message <;>
    simp [toJson, Json.get?, Dict.get?, Ne.symm hsender, Ne.symm hevents, Ne.symm htime,
      Ne.symm hmessage]

theorem preserves_of_decode (h : decode src = .ok r) (hv : src.toJson = .ok v) :
    Preserves v r.toJson where
  members := by
    obtain ⟨ms, vs, -, hvs, hread⟩ := exists_of_decode h
    obtain rfl : v = .object vs := Except.ok.inj (hv.symm.trans hvs)
    intro key hkey
    rw [get?_toJson_of_undeclared hkey]
    -- A key that is not declared lands among the extra members.
    refine (hread.read.others key ?_).symm
    simp only [List.mem_cons, List.not_mem_nil, or_false, not_or] at hkey
    obtain ⟨hsender, hevents, htime, hmessage⟩ := hkey
    simp [shape, Field.defaulted, Ne.symm hsender, Ne.symm hevents, Ne.symm htime,
      Ne.symm hmessage]
  events := by
    have hwritten : r.toJson.itemsAt "events" = r.events.map Event.toJson := rfl
    rw [hwritten, List.forall₂_map_right_iff]
    refine (forall₂_events h hv).imp ?_
    rintro w e ⟨src, hw, he⟩
    exact Event.sameBut_of_decode he hw
  latestMessage := by
    intro w hget hne
    rcases latestMessage_cases h hv with ⟨hnone | hnull, -⟩ | ⟨w', m, src, hget', hm, hw, hdecoded⟩
    · cases hget.symm.trans hnone
    · cases hget.symm.trans hnull
      exact absurd rfl hne
    · cases hget.symm.trans hget'
      refine ⟨m.toJson, ?_, LatestMessage.sameBut_of_decode hdecoded hw⟩
      obtain ⟨senderId, events, time, message, extra⟩ := r
      cases hm
      cases time <;> rfl

/-- The members of the value of a record, in their order. -/
theorem toJson_eq : r.toJson = .object (("sender_id", .string r.senderId) ::
    ("events", .events r.events) ::
    (Shape.memberIfAny "latest_event_time" (r.latestEventTime.map Json.float) ++
      (Shape.memberIfAny "latest_message" (r.latestMessage.map LatestMessage.toJson) ++
        r.extra))) := by
  rw [toJson, List.append_assoc]
  cases r.latestEventTime <;> cases r.latestMessage <;> rfl

/-- **A record is decoded again from its value.** -/
theorem decode_toJson (hkept : r.Kept) (htimes : r.FiniteTimes) :
    decode (.ofJson r.toJson) = .ok r := by
  rw [toJson_eq, Source.ofJson, Source.ofJsonMembers, Source.ofJsonMembers, decode, Shape.open]
  have hevents : Decoder.list Event.decode (.ofJson (.events r.events)) = .ok r.events :=
    Decoder.list_ofJson fun e he => Event.decode_toJson (hkept.events e he) (htimes.events e he)
  rw [Shape.members_declared (Record.mk r.senderId [] none none []) rfl List.not_mem_nil rfl,
    Shape.members_declared (Record.mk r.senderId r.events none none []) rfl (by decide)
      (Field.isSet_defaulted.store_eq hevents)]
  refine Shape.members_ifAny (Record.mk r.senderId r.events r.latestEventTime none []) rfl
    (by decide) ?_ ?_ fun seen hseen => ?_
  · intro v hv
    obtain ⟨t, ht, rfl⟩ := Option.map_eq_some_iff.1 hv
    have hnumber : Json.float t = .number (.float t) := if_pos (htimes.latest t ht)
    rw [hnumber, ht]
    rfl
  · intro hnone
    rw [Option.map_eq_none_iff.1 hnone]
  have hnew : "latest_message" ∉ seen := fun hmem => absurd (hseen hmem) (by decide)
  refine Shape.members_ifAny
    (Record.mk r.senderId r.events r.latestEventTime r.latestMessage []) rfl hnew ?_ ?_
    fun _ _ => ?_
  · intro v hv
    obtain ⟨m, hm, rfl⟩ := Option.map_eq_some_iff.1 hv
    have hdecoded := LatestMessage.decode_toJson (hkept.latestMessage m hm)
    have hne : Source.ofJson m.toJson ≠ .null := by
      intro hnull
      cases hnull
    have hoptional : Decoder.optional LatestMessage.decode (.ofJson m.toJson) =
        .ok r.latestMessage := by
      rw [Decoder.optional_of_ne_null hne, hdecoded, hm]
      rfl
    exact Field.isSet_defaulted.store_eq hoptional
  · intro hnone
    rw [Option.map_eq_none_iff.1 hnone]
  exact Shape.members_kept
    (Record.mk r.senderId r.events r.latestEventTime r.latestMessage) (fun _ _ _ => rfl) hkept.extra
    (by simp [shape, Field.defaulted])

/-- **A record that is decoded has a value to be decoded from, and this has all that the record does
not interpret.  If all numbers are finite, it is decoded as the same record.** -/
theorem survives_decoding (h : decode src = .ok r) :
    ∃ v, src.toJson = .ok v ∧ Preserves v r.toJson ∧
      (v.IsFinite → decode (.ofJson r.toJson) = .ok r) := by
  obtain ⟨ms, vs, -, hv, -⟩ := exists_of_decode h
  exact ⟨.object vs, hv, preserves_of_decode h hv,
    fun hfinite => decode_toJson (kept_of_decode h) (finiteTimes_of_decode h hv hfinite)⟩

end Record

end DialogueStore
