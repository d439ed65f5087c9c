/-
Records are read back from their printed texts, if their doubles are.

A record that was read from a text is printed and read again.  All that it consists of comes
back as it was, but for its doubles: the reader scales the digits of a double in rounded steps
(`Reader.scale`) and may miss the one that was printed.

* `Record.survives_text` — a record that was read from a text is read again from what is printed of
  it, exactly if all doubles in it are legible, and then the text has all members of the first one
  that the record does not interpret,
* `Record.lost_in_text` — a time for which this fails.

Proof idea: a printed value is read as the value with its numbers read again
(`ofString_printed`).  If these are all the same, it is the record's own value, and that is decoded
as the record (`Record.decode_toJson`).  Conversely, a record that comes back shows each of its
doubles at its own place in what was read, be it a time or a number in a member that is
carried along (`legible_of_float`, `Shape.Read.legible`).
-/
import DialogueStore.Conversation.Equality
import DialogueStore.Proofs.Printed
import DialogueStore.Proofs.ReadBack

namespace DialogueStore

open Json

namespace Event

/-- All doubles in an event are read back from their numerals. -/
structure Legible (e : Event) : Prop where
  timestamp : Number.Legible (.float e.timestamp)
  fields : ∀ m ∈ e.fields, m.2.Legible

end Event

namespace Record

/-- All doubles in a record are read back from their numerals: its times, and those in members that
are carried along. -/
structure Legible (r : Record) : Prop where
  events : ∀ e ∈ r.events, e.Legible
  latestEventTime : ∀ t ∈ r.latestEventTime, Number.Legible (.float t)
  latestMessage : ∀ m ∈ r.latestMessage, ∀ f ∈ m.fields, f.2.Legible
  extra : ∀ m ∈ r.extra, m.2.Legible

end Record

/-- What holds of all that a record is written with holds of all members of its value. -/
theorem Record.forall_members {r : Record} {P : Json → Prop} (hsender : P (.string r.senderId))
    (hevents : P (.events r.events)) (htime : ∀ t ∈ r.latestEventTime, P (Json.float t))
    (hmessage : ∀ m ∈ r.latestMessage, P m.toJson) (hextra : ∀ m ∈ r.extra, P m.2) :
    ∃ members, r.toJson = .object members ∧ ∀ m ∈ members, P m.2 := by
  obtain ⟨senderId, events, time, message, extra⟩ := r
  have htimes : ∀ m ∈ Shape.memberIfAny "latest_event_time" (time.map Json.float), P m.2 := by
    cases time with
    | none => exact nofun
    | some t => exact List.forall_mem_singleton.2 (htime t rfl)
  have hmessages : ∀ m ∈ Shape.memberIfAny "latest_message" (message.map LatestMessage.toJson),
      P m.2 := by
    cases message with
    | none => exact nofun
    | some m => exact List.forall_mem_singleton.2 (hmessage m rfl)
  exact ⟨_, toJson_eq, List.forall_mem_cons.2 ⟨hsender, List.forall_mem_cons.2 ⟨hevents,
    List.forall_mem_append.2 ⟨htimes, List.forall_mem_append.2 ⟨hmessages, hextra⟩⟩⟩⟩⟩

/-! ### From legible doubles to the record -/

theorem Json.legible_float {x : Float} (h : Number.Legible (.float x)) :
    (Json.float x).Legible := by
  rw [Json.float, if_pos (isFinite_of_legible h)]
  exact .float h

theorem Event.legible_toJson {e : Event} (h : e.Legible) : e.toJson.Legible :=
  .object (List.forall_mem_cons.2
    ⟨.string e.kind, List.forall_mem_cons.2 ⟨legible_float h.timestamp, h.fields⟩⟩)

theorem LatestMessage.legible_toJson {m : LatestMessage} (h : ∀ f ∈ m.fields, f.2.Legible) :
    m.toJson.Legible := by
  have htext : (Json.orNull .string m.text).Legible := by
    cases m.text with
    | none => exact .null
    | some text => exact .string text
  exact .object (List.forall_mem_cons.2 ⟨htext, h⟩)

theorem Record.legible_toJson {r : Record} (h : r.Legible) : r.toJson.Legible := by
  have hevents : (Json.events r.events).Legible := by
    refine .array fun v hv => ?_
    obtain ⟨e, he, rfl⟩ := List.mem_map.1 hv
    exact Event.legible_toJson (h.events e he)
  obtain ⟨members, hmembers, hall⟩ := forall_members (.string _) hevents
    (fun t ht => legible_float (h.latestEventTime t ht))
    (fun m hm => LatestMessage.legible_toJson (h.latestMessage m hm)) h.extra
  rw [hmembers]
  exact .object hall

theorem Record.finiteTimes_of_legible {r : Record} (h : r.Legible) : r.FiniteTimes where
  events := fun e he => isFinite_of_legible (h.events e he).timestamp
  latest := fun t ht => isFinite_of_legible (h.latestEventTime t ht)

/-! ### From the record to legible doubles -/

/-- A time that comes back is legible. -/
theorem Json.legible_of_float {x : Float} (h : Decoder.float (Json.float x).reread = .ok x) :
    Number.Legible (.float x) := by
  rw [Json.float] at h
  split at h
  · cases hread : reread (.number (.float x)) with
    | number n =>
      obtain ⟨-, y, rfl⟩ := eq_float_of_reread hread
      rw [hread] at h
      obtain rfl : y = x := Except.ok.inj h
      exact legible_iff.2 hread
    | null | bool _ | string _ | array _ | object _ | flaw _ =>
      rw [hread] at h
      cases h
  · cases h

/-- Members that come back are legible. -/
theorem Json.Shape.Read.legible {σ : Type} {shape : Shape σ} {declared fields vs : Dict Json}
    (h : shape.Read (rereadMembers (declared ++ fields)) vs fields) :
    ∀ m ∈ fields, m.2.Legible := by
  intro m hm
  obtain ⟨w, hw, hget⟩ := toJson_reread_of_mem declared h.keeps.sorted h.value hm
  have hkept : fields.get? m.1 = some m.2 := h.keeps.sorted.mem_iff.1 hm
  rw [h.others m.1 (h.keeps.undeclared m hm), hkept] at hget
  refine legible_of_toJson (h.keeps.normal m hm) ?_
  rw [hw, Option.some.inj hget]

theorem Event.legible_of_decode {e : Event} (h : decode e.toJson.reread = .ok e) : e.Legible := by
  obtain ⟨ms, vs, hms, -, hread, htime⟩ := exists_of_decode h
  obtain rfl : rereadMembers ([("event", Json.string e.kind),
    ("timestamp", Json.float e.timestamp)] ++ e.fields) = ms := Source.object.inj hms
  exact ⟨legible_of_float htime, hread.legible⟩

theorem LatestMessage.legible_of_decode {m : LatestMessage} (h : decode m.toJson.reread = .ok m) :
    ∀ f ∈ m.fields, f.2.Legible := by
  obtain ⟨ms, vs, hms, -, hread⟩ := exists_of_decode h
  obtain rfl : rereadMembers ([("text", Json.orNull .string m.text)] ++ m.fields) = ms :=
    Source.object.inj hms
  exact hread.legible

theorem Record.legible_of_decode {r : Record} (h : decode r.toJson.reread = .ok r) : r.Legible := by
  obtain ⟨ms, vs, hms, -, hread⟩ := exists_of_decode h
  -- Reading the printed members gives each of them under the key it was printed with.
  have hget : ∀ key, Dict.get? ms key = (r.toJson.get? key).map reread := by
    intro key
    rw [toJson_eq] at hms ⊢
    rw [← Source.object.inj hms, rereadMembers_eq_mapValues, Dict.get?_mapValues]
    rfl
  have hextra := hread.read
  rw [toJson_eq, ← List.cons_append, ← List.cons_append, ← List.append_assoc] at hms
  rw [← Source.object.inj hms] at hextra
  refine ⟨?_, fun t ht => ?_, fun m hm => ?_, hextra.legible⟩
  · -- The printed events are decoded to the events they were printed from, one by one.
    have hevents := hread.events
    have hwritten : r.toJson.get? "events" = some (.events r.events) := rfl
    rw [hget, hwritten] at hevents
    obtain ⟨items, hitems, hall⟩ := Decoder.exists_of_list hevents
    obtain rfl : rereadItems (r.events.map Event.toJson) = items := Source.array.inj hitems
    rw [rereadItems_eq_map, List.forall₂_map_left_iff, List.forall₂_map_left_iff] at hall
    exact fun e he => Event.legible_of_decode (List.forall₂_same.1 hall e he)
  · have htime := hread.latestEventTime
    have hwritten : r.toJson.get? "latest_event_time" = some (Json.float t) := by
      obtain ⟨senderId, events, time, message, extra⟩ := r
      cases ht
      rfl
    rw [hget, hwritten] at htime
    rcases Decoder.optional_cases htime with ⟨-, hnone⟩ | ⟨-, t', ht', hsome⟩
    · cases ht.symm.trans hnone
    · cases ht.symm.trans hsome
      exact legible_of_float ht'
  · have hmessage := hread.latestMessage
    have hwritten : r.toJson.get? "latest_message" = some m.toJson := by
      obtain ⟨senderId, events, time, message, extra⟩ := r
      cases hm
      cases time <;> rfl
    rw [hget, hwritten] at hmessage
    rcases Decoder.optional_cases hmessage with ⟨-, hnone⟩ | ⟨-, m', hm', hsome⟩
    · cases hm.symm.trans hnone
    · cases hm.symm.trans hsome
      exact LatestMessage.legible_of_decode hm'

/-! ### Within the limits -/

theorem Json.Fits.get? {room : Nat} {v w : Json} {key : String} (h : v.Fits (room + 1))
    (hw : v.get? key = some w) : w.Fits room := by
  cases h with
  | null | bool _ | int _ _ | float _ | string _ | array _ => cases hw
  | object h => exact h (key, w) (Dict.mem_of_get? hw)

theorem Json.Fits.itemsAt {room : Nat} {v : Json} {key : String} (h : v.Fits (room + 2)) :
    ∀ w ∈ v.itemsAt key, w.Fits room := by
  intro w hw
  rw [Json.itemsAt] at hw
  split at hw
  · rename_i items hget
    cases h.get? hget with
    | array hitems => exact hitems w hw
  · cases hw

/-- Members that are carried along come from within the limits. -/
theorem Json.Shape.Read.fits {σ : Type} {shape : Shape σ} {ms : List (String × Source)}
    {vs fields : Dict Json} {room : Nat} (h : shape.Read ms vs fields)
    (hfits : (Json.object vs).Fits (room + 1)) : ∀ m ∈ fields, m.2.Fits room := by
  intro m hm
  have hkept : fields.get? m.1 = some m.2 := h.keeps.sorted.mem_iff.1 hm
  exact hfits.get? ((h.others m.1 (h.keeps.undeclared m hm)).trans hkept)

theorem Json.fits_float (room : Nat) (x : Float) : (Json.float x).Fits room := by
  rw [Json.float]
  split
  · exact .float x
  · exact .null

section Limits

variable {src : Source} {v : Json} {room : Nat}

theorem Event.fits_of_decode {e : Event} (h : decode src = .ok e) (hv : src.toJson = .ok v)
    (hfits : v.Fits (room + 1)) : e.toJson.Fits (room + 1) := by
  obtain ⟨ms, vs, -, hvs, hread, -⟩ := exists_of_decode h
  obtain rfl : v = .object vs := Except.ok.inj (hv.symm.trans hvs)
  exact .object (List.forall_mem_cons.2 ⟨.string _, List.forall_mem_cons.2
    ⟨fits_float room _, hread.fits hfits⟩⟩)

theorem LatestMessage.fits_of_decode {m : LatestMessage} (h : decode src = .ok m)
    (hv : src.toJson = .ok v) (hfits : v.Fits (room + 1)) : m.toJson.Fits (room + 1) := by
  obtain ⟨ms, vs, -, hvs, hread⟩ := exists_of_decode h
  obtain rfl : v = .object vs := Except.ok.inj (hv.symm.trans hvs)
  have htext : (Json.orNull .string m.text).Fits room := by
    cases m.text with
    | none => exact .null
    | some text => exact .string text
  exact .object (List.forall_mem_cons.2 ⟨htext, hread.fits hfits⟩)

/-- The value of a record is within the limits that the value it was decoded from is in. -/
theorem Record.fits_of_decode {r : Record} (h : decode src = .ok r) (hv : src.toJson = .ok v)
    (hfits : v.Fits (room + 3)) : r.toJson.Fits (room + 3) := by
  -- What the record decodes of the document lies no deeper there than where it is written.
  have hevents : (Json.events r.events).Fits (room + 2) := by
    refine .array fun w hw => ?_
    obtain ⟨e, he, rfl⟩ := List.mem_map.1 hw
    exact forall_events h hv hfits.itemsAt
      (fun hw hsrc hdecoded => Event.fits_of_decode hdecoded hsrc hw) e he
  have hmessage : ∀ m ∈ r.latestMessage, m.toJson.Fits (room + 2) := by
    intro m hm
    rcases latestMessage_cases h hv with ⟨-, hnone⟩ | ⟨w, m', src', hget, hsome, hw, hdecoded⟩
    · cases hm.symm.trans hnone
    · cases hm.symm.trans hsome
      exact LatestMessage.fits_of_decode hdecoded hw (hfits.get? hget)
  obtain ⟨ms, vs, -, hvs, hread⟩ := exists_of_decode h
  obtain rfl : v = .object vs := Except.ok.inj (hv.symm.trans hvs)
  obtain ⟨members, hmembers, hall⟩ := forall_members (.string _) hevents
    (fun t _ => fits_float (room + 2) t) hmessage (hread.read.fits hfits)
  rw [hmembers]
  exact .object hall

end Limits

/-! ### Texts -/

namespace Record

/-- **A record is read again from its printed text exactly if all doubles in it are legible.** -/
theorem decode_printed_iff {r : Record} (hkept : r.Kept) (hfits : r.toJson.Fits depthLimit) :
    ∀ printed ∈ [r.toJson.compact, r.toJson.pretty],
      (Document.ofString printed).decode decode = .ok r ↔ r.Legible := by
  intro printed hprinted
  have hread : (Document.ofString printed).decode decode = decode r.toJson.reread := by
    rw [Document.decode, ofString_printed hfits printed hprinted]
    cases decode r.toJson.reread <;> rfl
  rw [hread]
  refine ⟨legible_of_decode, fun h => ?_⟩
  rw [reread_eq (legible_toJson h) hfits]
  exact decode_toJson hkept (finiteTimes_of_legible h)

/-- Two lists that go along with a third one go along with each other. -/
theorem forall₂_of_common {α β γ : Type} {R : α → γ → Prop} {S : β → γ → Prop} {T : α → β → Prop}
    {as : List α} {bs : List β} {cs : List γ} (h : ∀ a b c, R a c → S b c → T a b)
    (has : List.Forall₂ R as cs) (hbs : List.Forall₂ S bs cs) : List.Forall₂ T as bs := by
  induction has generalizing bs with
  | nil =>
    cases hbs
    exact .nil
  | cons hR _ ih =>
    cases hbs with
    | cons hS hbs => exact .cons (h _ _ _ hR hS) (ih hbs)

/-- Two values that are decoded as the same record have the same members, but for those that are
interpreted. -/
theorem preserves_of_same {r : Record} {src src' : Source} {v w : Json} (h : decode src = .ok r)
    (hv : src.toJson = .ok v) (h' : decode src' = .ok r) (hw : src'.toJson = .ok w) :
    Preserves v w := by
  have hthere := preserves_of_decode h hv
  have hback := preserves_of_decode h' hw
  refine ⟨fun key hkey => ?_, ?_, fun m hm hne => ?_⟩
  · exact (hback.members key hkey).symm.trans (hthere.members key hkey)
  · refine forall₂_of_common (fun _ _ _ hthere hback => ?_) hthere.events hback.events
    exact fun key hkey => (hback key hkey).symm.trans (hthere key hkey)
  · rcases latestMessage_cases h hv with ⟨hnone | hnull, -⟩ | ⟨m₁, lm, _, hget, hsome, hm₁, hlm⟩
    · cases hm.symm.trans hnone
    · cases hm.symm.trans hnull
      exact absurd rfl hne
    · cases hm.symm.trans hget
      -- Both documents have the message, since the record has it.
      rcases latestMessage_cases h' hw with ⟨-, hnone⟩ | ⟨m₂, lm', _, hget', hsome', hm₂, hlm'⟩
      · cases hsome.symm.trans hnone
      · cases hsome.symm.trans hsome'
        refine ⟨m₂, hget', fun key hkey => ?_⟩
        exact (LatestMessage.sameBut_of_decode hlm' hm₂ key hkey).symm.trans
          (LatestMessage.sameBut_of_decode hlm hm₁ key hkey)

/-- What is decoded from a text is decoded from the source that the whole text is. -/
theorem root_of_decode {r : Record} {text : String}
    (h : (Document.ofString text).decode decode = .ok r) :
    decode (Document.ofString text).root = .ok r ∧ ∃ v, parse text = .ok v ∧
      (Document.ofString text).root.toJson = .ok v := by
  obtain ⟨r', hr, h⟩ := exists_of_bind h
  split at h
  · rename_i hcomplete
    cases h
    obtain ⟨ms, vs, -, hv, -⟩ := exists_of_decode hr
    refine ⟨hr, .object vs, ?_, hv⟩
    rw [parse, Document.decode, hv, hcomplete]
    rfl
  · cases h

/-- **A record that was read from a text is read again from its printed text exactly if all doubles
in it are legible.  What is printed has all members of the first text that the record does not
interpret, and these are read again too.** -/
theorem survives_text {r : Record} {text : String}
    (h : (Document.ofString text).decode decode = .ok r) :
    ∃ v, parse text = .ok v ∧ Preserves v r.toJson ∧
      ∀ printed ∈ [r.toJson.compact, r.toJson.pretty],
        ((Document.ofString printed).decode decode = .ok r ↔ r.Legible) ∧
          (r.Legible → ∃ w, parse printed = .ok w ∧ Preserves v w) := by
  obtain ⟨hroot, v, hparse, hv⟩ := root_of_decode h
  have hfits : v.Fits depthLimit := fits_of_document hv
  -- What was read is not nested too deeply to be read again.
  have hprinted := decode_printed_iff (kept_of_decode hroot) (fits_of_decode hroot hv hfits)
  refine ⟨v, hparse, preserves_of_decode hroot hv, fun printed hmem => ⟨hprinted printed hmem, ?_⟩⟩
  intro hlegible
  obtain ⟨hroot', w, hparse', hw⟩ := root_of_decode ((hprinted printed hmem).2 hlegible)
  exact ⟨w, hparse', preserves_of_same hroot hv hroot' hw⟩

/-- A record with whole numbers for a time and elsewhere, and with a key that comes twice. -/
theorem survives_text_partial :
    let text := "\x7b\"slots\":\x7b\"city\":\"Oulu\",\"age\":3\x7d,\"events\":" ++
      "[\x7b\"timestamp\":2,\"name\":\"listen\",\"event\":\"action\"\x7d]," ++
      "\"paused\":false,\"paused\":true,\"latest_message\":\x7b\"confidence\":0.75\x7d\x7d"
    let r : Record := ⟨"", [⟨"action", 2, [("name", .string "listen")]⟩], none,
      some ⟨none, [("confidence", .number (.float 0.75))]⟩, [("paused", .bool true),
        ("slots", .object [("age", .number (.int 3)), ("city", .string "Oulu")])]⟩
    (Document.ofString text).decode decode = .ok r ∧
      (Document.ofString r.toJson.pretty).decode decode = .ok r ∧
      ∃ w, parse r.toJson.pretty = .ok w ∧ w.get? "slots" =
        some (.object [("age", .number (.int 3)), ("city", .string "Oulu")]) := by
  intro text r
  have h : (Document.ofString text).decode decode = .ok r := by decide +kernel
  have htwo : Number.Legible (.float 2) := by
    show parse _ = _
    decide +kernel
  have hquarters : Number.Legible (.float 0.75) := by
    show parse _ = _
    decide +kernel
  have hlegible : r.Legible := by
    refine ⟨?_, nofun, ?_, ?_⟩
    · exact List.forall_mem_singleton.2 ⟨htwo, List.forall_mem_singleton.2 (.string _)⟩
    · rintro _ ⟨⟩
      exact List.forall_mem_singleton.2 (.float hquarters)
    · exact List.forall_mem_cons.2 ⟨.bool true, List.forall_mem_singleton.2 (.object
        (List.forall_mem_cons.2 ⟨.int 3, List.forall_mem_singleton.2 (.string _)⟩))⟩
  obtain ⟨v, -, hpreserved, hprinted⟩ := survives_text h
  obtain ⟨hback, hagain⟩ := hprinted r.toJson.pretty (by simp)
  obtain ⟨w, hw, hpreserved'⟩ := hagain hlegible
  refine ⟨h, hback.2 hlegible, w, hw, ?_⟩
  rw [hpreserved'.members "slots" (by decide), ← hpreserved.members "slots" (by decide)]
  rfl

/-- A time that does not come back: the digits of what is printed of it are more than a double holds
as a whole number, so that the last one is rounded off before they are scaled. -/
theorem lost_in_text :
    let text := "\x7b\"events\":[\x7b\"event\":\"bot\",\"timestamp\":1709595822.1746102," ++
      "\"received_at\":1709595822.1746102\x7d]\x7d"
    let printed := "\x7b\"sender_id\":\"\",\"events\":[\x7b\"event\":\"bot\"," ++
      "\"timestamp\":1709595822.1746101,\"received_at\":1709595822.1746101\x7d]\x7d"
    let bot (time : Float) : Record :=
      ⟨"", [⟨"bot", time, [("received_at", .number (.float time))]⟩], none, none, []⟩
    (Document.ofString text).decode decode = .ok (bot 1709595822.1746102) ∧
      (bot 1709595822.1746102).toJson.compact = printed ∧
      (Document.ofString printed).decode decode = .ok (bot 1709595822.17461) ∧
      bot 1709595822.17461 ≠ bot 1709595822.1746102 := by
  decide +kernel

end Record

end DialogueStore
