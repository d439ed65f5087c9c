/-
What an answer of the remote store means.

An answer is judged in a strict order: its status, then whether the whole body can be
decoded, then the errors that the body names, and at last whether there is a payload.
What is said here of a body is said of its members, or of its items where it is an array,
and not of what is decoded from it.

* `Answer.errors_of_decode`, `Answer.data_of_decode` — what is decoded are the messages and
  the payload of the body,
* `Client.judged_reply` — the order in which an answer is judged,
* `Engine.cursor_reply` — what a reply does to the cursors in a run,
* `Engine.only_clean_answers_count` — the kinds of failures, and that only the payload of an
  answer without any of them moves a cursor.
-/
import DialogueStore.Proofs.Broadcasts
import DialogueStore.Proofs.Decoding
import DialogueStore.Proofs.Failures
import DialogueStore.Proofs.Provenance
import DialogueStore.Remote.GraphQl

namespace DialogueStore

open Json

/-! ### Bodies -/

namespace Answer

variable {α : Type} {field : String} {d : Decoder α} {src : Source}

/-- The message of an error, empty if it has none. -/
def message (src : Source) : String :=
  match src.part? "message" 0 with
  | some (.string m) => m
  | _ => ""

/-- The messages of all errors that a body names, in their order. -/
def messages (src : Source) : List String :=
  match src.part? "errors" 1 with
  | some (.array errors) => errors.map message
  | _ => []

/-- The payload of a body, unless the data or the payload itself is null or missing. -/
def payload? (field : String) (src : Source) : Option Source :=
  match (src.part? "data" 0).bind fun data => data.part? field 0 with
  | some .null => none
  | payload? => payload?

theorem message_of_decode {m : String} (h : errorShape.closed "" src = .ok m) :
    m = message src := by
  have hplaces : Shape.Places "message" .text id errorShape 0 :=
    .here rfl (Field.isSet_defaulted.tells fun _ _ => rfl) nofun
  have hmessage : Decoder.text.Gives "" (src.part? "message" 0) m :=
    Shape.get_of_closed hplaces h
  rw [message]
  cases hpart : src.part? "message" 0 with
  | none =>
    rw [hpart] at hmessage
    exact hmessage
  | some part =>
    rw [hpart] at hmessage
    cases part with
    | string s =>
      cases hmessage
      rfl
    | null | bool _ | number _ | array _ | object _ | flaw _ => cases hmessage

/-- The errors of a decoded body are the messages of the body. -/
theorem errors_of_decode {a : Answer α} (h : decode field d src = .ok a) :
    a.errors = messages src := by
  have hkey : "data" ≠ "errors" := by decide
  have hplaces : Shape.Places "errors"
      (fun src => (·.getD []) <$> Decoder.optional (.list (errorShape.closed "")) src)
      errors (shape field d) 1 :=
    .there hkey (Field.isSet_ordinal.spares fun _ _ => rfl)
      (.here rfl (Field.isSet_ordinal.tells_map fun _ _ => rfl) nofun)
  -- The errors are found at their own place, be the answer an object or an array.
  have herrors := Shape.get_of_closed hplaces h
  rw [messages]
  cases hpart : src.part? "errors" 1 with
  | none =>
    rw [hpart] at herrors
    exact herrors
  | some part =>
    rw [hpart] at herrors
    obtain ⟨errors?, hdecoded, herrors⟩ := Decoder.exists_of_map herrors
    rw [herrors]
    -- Null stands for no errors; of a list each item has its own message.
    rcases Decoder.optional_cases hdecoded with ⟨rfl, rfl⟩ | ⟨-, ms, hms, rfl⟩
    · rfl
    · obtain ⟨items, rfl, hall⟩ := Decoder.exists_of_list hms
      have heq : List.Forall₂ (fun src m => m = message src) items ms :=
        hall.imp fun _ _ => message_of_decode
      show ms = items.map message
      rw [← List.forall₂_eq_eq_eq, List.forall₂_map_right_iff]
      exact heq.flip

/-- The data of a decoded body is decoded from the payload of the body, and there is none without
it. -/
theorem data_of_decode {a : Answer α} (h : decode field d src = .ok a) :
    payload? field src = none ∧ a.data = none ∨
      ∃ p x, payload? field src = some p ∧ d p = .ok x ∧ a.data = some x := by
  have hkey : "errors" ≠ "data" := by decide
  have hplaces : Shape.Places "data"
      (fun src => Option.join <$> Decoder.optional (payload field d) src) data (shape field d) 0 :=
    .here rfl (Field.isSet_ordinal.tells_map fun _ _ => rfl) (List.forall_mem_singleton.2
      ⟨hkey, Field.isSet_ordinal.spares fun _ _ => rfl⟩)
  have hinner : Shape.Places field (Decoder.optional d) id
      [Field.defaulted field (.optional d) fun _ v => v] 0 :=
    .here rfl (Field.isSet_defaulted.tells fun _ _ => rfl) nofun
  have hdata := Shape.get_of_closed hplaces h
  rw [payload?]
  -- There is no payload where the data are missing or null, and none where its field is.
  cases hpart : src.part? "data" 0 with
  | none =>
    rw [hpart] at hdata
    exact .inl ⟨rfl, hdata⟩
  | some part =>
    rw [hpart] at hdata
    obtain ⟨data?, hdecoded, hdata⟩ := Decoder.exists_of_map hdata
    rcases Decoder.optional_cases hdecoded with ⟨rfl, rfl⟩ | ⟨-, x?, hx, rfl⟩
    · exact .inl ⟨rfl, hdata⟩
    · have hpayload : (Decoder.optional d).Gives none (part.part? field 0) x? :=
        Shape.get_of_closed hinner hx
      rw [Option.join_some] at hdata
      rw [Option.bind_some, hdata]
      cases hpart' : part.part? field 0 with
      | none =>
        rw [hpart'] at hpayload
        exact .inl ⟨rfl, hpayload⟩
      | some p =>
        rw [hpart'] at hpayload
        rcases Decoder.optional_cases hpayload with ⟨rfl, hnone⟩ | ⟨hne, x, hx, hsome⟩
        · exact .inl ⟨rfl, hnone⟩
        · refine .inr ⟨p, x, ?_, hx, hsome⟩
          cases p with
          | null => exact absurd rfl hne
          | bool _ | number _ | string _ | array _ | object _ | flaw _ => rfl

end Answer

/-- The whole number that a source is. -/
def Json.Source.int? : Source → Option Int
  | .number (.int n) => some n
  | _ => none

/-- The number that a source is. -/
def Json.Source.float? : Source → Option Float
  | .number n => some n.toFloat
  | _ => none

/-! ### The order of judgement -/

namespace Call

variable {call : Call} {status : Nat} {content : List UInt8}

/-- Whether a body can be decoded as the answer to a call. -/
def Decodes (call : Call) (content : List UInt8) : Prop :=
  match call with
  | .fetch _ => ∃ a, (Document.ofBytes content).decode
      (Answer.decode call.operation.field Snapshot.decode) = .ok a
  | .insert _ | .update _ => ∃ a, (Document.ofBytes content).decode
      (Answer.decode call.operation.field RemoteCursor.decode) = .ok a

/-- An answer is a success, its body can be decoded, and it names no errors. -/
def IsClean (call : Call) (status : Nat) (content : List UInt8) : Prop :=
  (200 ≤ status ∧ status < 300) ∧ call.Decodes content ∧
    Answer.messages (Document.ofBytes content).root = []

/-- The payload of a body that answers a call. -/
def payload? (call : Call) (content : List UInt8) : Option Source :=
  Answer.payload? call.operation.field (Document.ofBytes content).root

/-- What the payload of an answer is for a call. -/
def Brings (call : Call) (p : Source) (r : Reply) : Prop :=
  match call with
  | .fetch _ => ∃ snapshot, Snapshot.decode p = .ok snapshot ∧ r = .fetched (.ok (some snapshot))
  | .insert _ | .update _ => ∃ cursor, RemoteCursor.decode p = .ok cursor ∧ r = .written (.ok cursor)

end Call

/-- The failure that a reply tells. -/
def Reply.error? : Reply → Option RemoteError
  | .fetched (.error e) => some e
  | .written (.error e) => some e
  | _ => none

/-- What is made of an answer to a call: the first thing that is wrong with it counts. -/
inductive Call.Judged (call : Call) (status : Nat) (content : List UInt8) (r : Reply) : Prop
  | refused (h : ¬ (200 ≤ status ∧ status < 300))
    (hr : r.error? = some (.status status (Utf8.decodeLossy content)))
  | undecodable (hstatus : 200 ≤ status ∧ status < 300) (h : ¬ call.Decodes content)
    (hr : r.error? = some (.decode call.operation.field))
  | faulty (hstatus : 200 ≤ status ∧ status < 300) (hdecodes : call.Decodes content)
    (h : Answer.messages (Document.ofBytes content).root ≠ [])
    (hr : r.error? = some (.graphQl (Answer.messages (Document.ofBytes content).root)))
  | empty (hclean : call.IsClean status content) (hwrite : call.isWrite = true)
    (h : call.payload? content = none)
    (hr : r.error? = some (.emptyResponse call.operation.field))
  | nothing (hclean : call.IsClean status content) (hwrite : call.isWrite = false)
    (h : call.payload? content = none) (hr : r = .fetched (.ok none))
  | brought {p : Source} (hclean : call.IsClean status content)
    (h : call.payload? content = some p) (hr : call.Brings p r)

namespace Client

variable {c : Client} {α : Type} {field : String} {d : Decoder α} {status : Nat}
  {content : List UInt8}

/-- What the answer to an operation on a field is judged to hold. -/
inductive Interprets (field : String) (d : Decoder α) (status : Nat) (content : List UInt8)
    (r : Except RemoteError (Option α)) : Prop
  | refused (h : ¬ (200 ≤ status ∧ status < 300))
    (hr : r = .error (.status status (Utf8.decodeLossy content)))
  | undecodable (hstatus : 200 ≤ status ∧ status < 300)
    (h : ¬ ∃ a, (Document.ofBytes content).decode (Answer.decode field d) = .ok a)
    (hr : r = .error (.decode field))
  | faulty (hstatus : 200 ≤ status ∧ status < 300)
    (hdecodes : ∃ a, (Document.ofBytes content).decode (Answer.decode field d) = .ok a)
    (h : Answer.messages (Document.ofBytes content).root ≠ [])
    (hr : r = .error (.graphQl (Answer.messages (Document.ofBytes content).root)))
  | decoded {a : Answer α} (hstatus : 200 ≤ status ∧ status < 300)
    (h : (Document.ofBytes content).decode (Answer.decode field d) = .ok a)
    (hmessages : Answer.messages (Document.ofBytes content).root = []) (hr : r = .ok a.data)

theorem decode_of_document {doc : Document} {β : Type} {f : Decoder β} {b : β}
    (h : doc.decode f = .ok b) : f doc.root = .ok b := by
  obtain ⟨b', hb, h⟩ := exists_of_bind h
  split at h
  · cases h
    exact hb
  · cases h

theorem interprets_interpret :
    Interprets field d status content (c.interpret field d (.answered status (.bytes content))) := by
  rw [interpret]
  split
  · exact .refused (by omega) rfl
  · have hstatus : 200 ≤ status ∧ status < 300 := by omega
    cases hdecode : (Document.ofBytes content).decode (Answer.decode field d) with
    | error fault =>
      refine .undecodable hstatus ?_ rfl
      rintro ⟨a, ha⟩
      rw [hdecode] at ha
      cases ha
    | ok a =>
      have hmessages := Answer.errors_of_decode (decode_of_document hdecode)
      dsimp only
      split
      · rename_i hempty
        rw [hmessages, List.isEmpty_iff] at hempty
        exact .decoded hstatus hdecode hempty rfl
      · rename_i hsome
        rw [hmessages, List.isEmpty_iff] at hsome
        exact .faulty hstatus ⟨a, hdecode⟩ hsome (by rw [hmessages])

/-- A write fails for want of a cursor, too. -/
theorem Interprets.judged_write (call : Call) {r : Except RemoteError (Option RemoteCursor)}
    (h : Interprets call.operation.field RemoteCursor.decode status content r)
    (hwrite : call.isWrite = true) :
    call.Judged status content (.written (do
      match ← r with
      | some cursor => return cursor
      | none => throw (.emptyResponse call.operation.field))) := by
  cases call with
  | fetch req => cases hwrite
  | insert req | update req =>
    cases h with
    | refused h hr => exact .refused h (by rw [hr]; rfl)
    | undecodable hstatus h hr => exact .undecodable hstatus h (by rw [hr]; rfl)
    | faulty hstatus hdecodes h hr => exact .faulty hstatus hdecodes h (by rw [hr]; rfl)
    | decoded hstatus h hmessages hr =>
      rcases Answer.data_of_decode (decode_of_document h) with ⟨hp, hdata⟩ | ⟨p, x, hp, hx, hdata⟩
      · exact .empty ⟨hstatus, ⟨_, h⟩, hmessages⟩ rfl hp (by rw [hr, hdata]; rfl)
      · exact .brought ⟨hstatus, ⟨_, h⟩, hmessages⟩ hp ⟨x, hx, by rw [hr, hdata]; rfl⟩

/-- **The order in which an answer is judged.** -/
theorem judged_reply (c : Client) (call : Call) (status : Nat) (content : List UInt8) :
    call.Judged status content (c.reply call (.answered status (.bytes content))) := by
  cases call with
  | fetch req =>
    have h : Interprets RemoteOperation.fetch.field Snapshot.decode status content
        (c.fetchReply (.answered status (.bytes content))) := interprets_interpret
    rw [reply]
    cases h with
    | refused h hr => exact .refused h (by rw [hr]; rfl)
    | undecodable hstatus h hr => exact .undecodable hstatus h (by rw [hr]; rfl)
    | faulty hstatus hdecodes h hr => exact .faulty hstatus hdecodes h (by rw [hr]; rfl)
    | decoded hstatus h hmessages hr =>
      rcases Answer.data_of_decode (decode_of_document h) with ⟨hp, hdata⟩ | ⟨p, x, hp, hx, hdata⟩
      · exact .nothing ⟨hstatus, ⟨_, h⟩, hmessages⟩ rfl hp (by rw [hr, hdata])
      · exact .brought ⟨hstatus, ⟨_, h⟩, hmessages⟩ hp ⟨x, hx, by rw [hr, hdata]⟩
  | insert req => exact Interprets.judged_write (.insert req) interprets_interpret rfl
  | update req => exact Interprets.judged_write (.update req) interprets_interpret rfl

end Client

namespace Call

variable {call : Call} {status : Nat} {content : List UInt8} {p : Source} {r : Reply}

theorem Brings.error? (h : call.Brings p r) : r.error? = none := by
  cases call with
  | fetch req =>
    obtain ⟨snapshot, -, rfl⟩ := h
    rfl
  | insert req | update req =>
    obtain ⟨cursor, -, rfl⟩ := h
    rfl

namespace Judged

theorem status_iff (h : call.Judged status content r) {code : Nat} {text : String} :
    r.error? = some (.status code text) ↔
      ¬ (200 ≤ status ∧ status < 300) ∧ code = status ∧ text = Utf8.decodeLossy content := by
  cases h with
  | refused h hr => simp [hr, h, eq_comm]
  | undecodable hstatus _ hr => simp [hr, hstatus]
  | faulty hstatus _ _ hr => simp [hr, hstatus]
  | empty hclean _ _ hr => simp [hr, hclean.1]
  | nothing hclean _ _ hr => simp [hr, hclean.1, Reply.error?]
  | brought hclean _ hr => simp [hr.error?, hclean.1]

theorem decode_iff (h : call.Judged status content r) :
    (∃ what, r.error? = some (.decode what)) ↔
      (200 ≤ status ∧ status < 300) ∧ ¬ call.Decodes content := by
  cases h with
  | refused h hr => simp [hr, h]
  | undecodable hstatus h hr => simp [hr, hstatus, h]
  | faulty _ hdecodes _ hr => simp [hr, hdecodes]
  | empty hclean _ _ hr => simp [hr, hclean.2.1]
  | nothing hclean _ _ hr => simp [hr, hclean.2.1, Reply.error?]
  | brought hclean _ hr => simp [hr.error?, hclean.2.1]

theorem graphQl_iff (h : call.Judged status content r) {messages : List String} :
    r.error? = some (.graphQl messages) ↔
      (200 ≤ status ∧ status < 300) ∧ call.Decodes content ∧ messages ≠ [] ∧
        messages = Answer.messages (Document.ofBytes content).root := by
  cases h with
  | refused h hr => simp [hr, h]
  | undecodable _ h hr => simp [hr, h]
  | faulty hstatus hdecodes h hr =>
    simp only [hr, hstatus, hdecodes, Option.some.injEq, RemoteError.graphQl.injEq, true_and]
    exact ⟨fun heq => ⟨heq ▸ h, heq.symm⟩, fun ⟨_, heq⟩ => heq.symm⟩
  | empty hclean _ _ hr => simp [hr, hclean.2.2]
  | nothing hclean _ _ hr => simp [hr, hclean.2.2, Reply.error?]
  | brought hclean _ hr => simp [hr.error?, hclean.2.2]

theorem emptyResponse_iff (h : call.Judged status content r) :
    (∃ what, r.error? = some (.emptyResponse what)) ↔
      call.IsClean status content ∧ call.isWrite = true ∧ call.payload? content = none := by
  cases h with
  | refused h hr => simp [hr, h, IsClean]
  | undecodable _ h hr => simp [hr, h, IsClean]
  | faulty _ _ h hr => simp [hr, h, IsClean]
  | empty hclean hwrite h hr => simp [hr, hclean, hwrite, h]
  | nothing _ hwrite _ hr => simp [hr, hwrite, Reply.error?]
  | brought _ h hr => simp [hr.error?, h]

theorem ok_iff (h : call.Judged status content r) :
    r.error? = none ↔ call.IsClean status content ∧
      (call.isWrite = true → call.payload? content ≠ none) := by
  cases h with
  | refused h hr => simp [hr, h, IsClean]
  | undecodable _ h hr => simp [hr, h, IsClean]
  | faulty _ _ h hr => simp [hr, h, IsClean]
  | empty _ hwrite h hr => simp [hr, hwrite, h]
  | nothing hclean hwrite _ hr => simp [hr, hclean, hwrite, Reply.error?]
  | brought hclean h hr => simp [hr.error?, hclean, h]

/-- A reply that is no failure holds what the payload says, or nothing. -/
theorem result (h : call.Judged status content r) (hok : r.error? = none) :
    match call.payload? content with
    | some p => call.Brings p r
    | none => r = .fetched (.ok none) := by
  cases h with
  | refused _ hr | undecodable _ _ hr | faulty _ _ _ hr | empty _ _ _ hr => simp [hr] at hok
  | nothing _ _ h hr =>
    rw [h]
    exact hr
  | brought _ h hr =>
    rw [h]
    exact hr

end Judged

/-! ### Cursors -/

/-- The cursor that a payload names, with the initial values for those that are missing or null.  A
snapshot has its record before it. -/
def cursorOf (call : Call) (p : Source) : Cursor :=
  let place := if call.isWrite then 0 else 1
  RemoteCursor.toCursor
    { lastIndex := (p.part? "lastIndex" place).bind Source.int?
      lastTimestamp := (p.part? "lastTimestamp" (place + 1)).bind Source.float? }

theorem int?_of_gives {part? : Option Source} {index? : Option Int}
    (h : Decoder.int64.optional.Gives none part? index?) : index? = part?.bind Source.int? := by
  cases part? with
  | none => exact h
  | some part =>
    rcases Decoder.optional_cases h with ⟨rfl, rfl⟩ | ⟨-, n, hn, rfl⟩
    · rfl
    · cases part with
      | number m =>
        cases m with
        | int m =>
          rw [Decoder.int64, Decoder.int] at hn
          split at hn
          · cases hn
            rfl
          · cases hn
        | float x => cases hn
      | null | bool _ | string _ | array _ | object _ | flaw _ => cases hn

theorem float?_of_gives {part? : Option Source} {time? : Option Float}
    (h : Decoder.float.optional.Gives none part? time?) : time? = part?.bind Source.float? := by
  cases part? with
  | none => exact h
  | some part =>
    rcases Decoder.optional_cases h with ⟨rfl, rfl⟩ | ⟨-, t, ht, rfl⟩
    · rfl
    · cases part with
      | number n =>
        cases ht
        rfl
      | null | bool _ | string _ | array _ | object _ | flaw _ => cases ht

/-- The cursor of a reply is the one that the payload names. -/
theorem Brings.cursor? (h : call.Brings p r) :
    r.cursor?.map RemoteCursor.toCursor = some (call.cursorOf p) := by
  cases call with
  | fetch req =>
    obtain ⟨snapshot, hp, rfl⟩ := h
    have hindex : Shape.Places "lastIndex" Decoder.int64.optional Snapshot.lastIndex
        Snapshot.shape 1 :=
      .there (by decide) (Field.isSet_defaulted.spares fun _ _ => rfl)
        (.here rfl (Field.isSet_defaulted.tells fun _ _ => rfl) (List.forall_mem_singleton.2
          ⟨by decide, Field.isSet_defaulted.spares fun _ _ => rfl⟩))
    have htime : Shape.Places "lastTimestamp" Decoder.float.optional Snapshot.lastTimestamp
        Snapshot.shape 2 :=
      .there (by decide) (Field.isSet_defaulted.spares fun _ _ => rfl)
        (.there (by decide) (Field.isSet_defaulted.spares fun _ _ => rfl)
          (.here rfl (Field.isSet_defaulted.tells fun _ _ => rfl) nofun))
    -- Both parts of the cursor are read off the payload itself.
    have hi : snapshot.lastIndex = _ := int?_of_gives (Shape.get_of_closed hindex hp)
    have ht : snapshot.lastTimestamp = _ := float?_of_gives (Shape.get_of_closed htime hp)
    rw [Reply.cursor?, hi, ht]
    rfl
  | insert req | update req =>
    obtain ⟨cursor, hp, rfl⟩ := h
    have hindex : Shape.Places "lastIndex" Decoder.int64.optional RemoteCursor.lastIndex
        RemoteCursor.shape 0 :=
      .here rfl (Field.isSet_defaulted.tells fun _ _ => rfl) (List.forall_mem_singleton.2
        ⟨by decide, Field.isSet_defaulted.spares fun _ _ => rfl⟩)
    have htime : Shape.Places "lastTimestamp" Decoder.float.optional RemoteCursor.lastTimestamp
        RemoteCursor.shape 1 :=
      .there (by decide) (Field.isSet_defaulted.spares fun _ _ => rfl)
        (.here rfl (Field.isSet_defaulted.tells fun _ _ => rfl) nofun)
    have hi : cursor.lastIndex = _ := int?_of_gives (Shape.get_of_closed hindex hp)
    have ht : cursor.lastTimestamp = _ := float?_of_gives (Shape.get_of_closed htime hp)
    obtain ⟨index?, time?⟩ := cursor
    cases hi
    cases ht
    rfl

/-- A delivery is a clean answer with a payload. -/
def Receives (call : Call) (d : Delivery) (p : Source) : Prop :=
  ∃ status content, d = .answered status (.bytes content) ∧ call.IsClean status content ∧
    call.payload? content = some p

theorem Receives.unique {d : Delivery} {q : Source} (h : call.Receives d p)
    (h' : call.Receives d q) : p = q := by
  obtain ⟨status, content, rfl, -, hp⟩ := h
  obtain ⟨_, _, heq, -, hq⟩ := h'
  cases heq
  exact Option.some.inj (hp.symm.trans hq)

end Call

/-- A failure brings no cursor. -/
theorem Reply.cursor?_of_error {r : Reply} {e : RemoteError} (h : r.error? = some e) :
    r.cursor? = none := by
  rcases r with (_ | _) | (_ | _)
  · rfl
  · cases h
  · rfl
  · cases h

namespace Client

variable {c : Client} {call : Call} {delivery : Delivery}

theorem cursor?_reply_of_error
    (h : ∀ {α : Type} field (d : Decoder α), ∃ error, c.interpret field d delivery = .error error) :
    (c.reply call delivery).cursor? = none := by
  cases call with
  | fetch req =>
    obtain ⟨error, h⟩ := h RemoteOperation.fetch.field Snapshot.decode
    rw [reply, fetchReply, h]
    rfl
  | insert req =>
    obtain ⟨error, h⟩ := h RemoteOperation.insert.field RemoteCursor.decode
    rw [reply, writeReply, h]
    rfl
  | update req =>
    obtain ⟨error, h⟩ := h RemoteOperation.update.field RemoteCursor.decode
    rw [reply, writeReply, h]
    rfl

/-- A cursor comes from the payload of a clean answer, and from nothing else. -/
theorem cursor?_reply (c : Client) (call : Call) (delivery : Delivery) :
    (∃ p, call.Receives delivery p ∧
        (c.reply call delivery).cursor?.map RemoteCursor.toCursor = some (call.cursorOf p)) ∨
      (∀ p, ¬ call.Receives delivery p) ∧ (c.reply call delivery).cursor? = none := by
  have hunanswered : (∀ status content, delivery ≠ .answered status (.bytes content)) →
      ∀ p, ¬ call.Receives delivery p := by
    rintro hne p ⟨status, content, heq, -⟩
    exact hne status content heq
  -- Without a body that arrives in full there is an error, whatever the call.
  cases delivery with
  | unreachable | lost | stalled =>
    exact .inr ⟨hunanswered nofun, cursor?_reply_of_error fun _ _ => ⟨_, rfl⟩⟩
  | answered status body =>
    cases body with
    | stalled | broken =>
      refine .inr ⟨hunanswered nofun, cursor?_reply_of_error fun field d => ?_⟩
      rw [interpret]
      split
      · exact ⟨_, rfl⟩
      · exact ⟨_, rfl⟩
    | bytes content =>
      have hreceives : ∀ p, call.Receives (.answered status (.bytes content)) p →
          call.IsClean status content ∧ call.payload? content = some p := by
        rintro p ⟨status, content, heq, hclean⟩
        cases heq
        exact hclean
      -- With one, the judgement of the answer decides, and only a payload brings a cursor.
      cases c.judged_reply call status content with
      | refused h hr =>
        exact .inr ⟨fun p hp => h (hreceives p hp).1.1, Reply.cursor?_of_error hr⟩
      | undecodable _ h hr =>
        exact .inr ⟨fun p hp => h (hreceives p hp).1.2.1, Reply.cursor?_of_error hr⟩
      | faulty _ _ h hr =>
        exact .inr ⟨fun p hp => h (hreceives p hp).1.2.2, Reply.cursor?_of_error hr⟩
      | empty _ _ h hr =>
        refine .inr ⟨fun p hp => ?_, Reply.cursor?_of_error hr⟩
        cases h.symm.trans (hreceives p hp).2
      | nothing _ _ h hr =>
        refine .inr ⟨fun p hp => ?_, by rw [hr]; rfl⟩
        cases h.symm.trans (hreceives p hp).2
      | brought hclean h hr => exact .inl ⟨_, ⟨status, content, rfl, hclean, h⟩, hr.cursor?⟩

end Client

/-! ### Runs -/

namespace Engine

variable {e : Engine} {past : List Action} {t : Task} {call : Call} {sender : String}

theorem cursor_after (past : List Action) (sender : String) :
    (e.after past).cache.cursor sender =
      ((e.acknowledged sender past).map RemoteCursor.toCursor).getD .initial := by
  rw [Cache.cursor_eq, Entry.lastCursor, entry_cursor]

/-- Beginning, entering and dropping a task leave all cursors alone. -/
theorem cursor_step {a : Action} (hreply : ∀ id r, a ≠ .reply id r) (hsweep : ∀ now, a ≠ .sweep now) :
    (e.step (e.after past) a).1.cache.cursor sender = (e.after past).cache.cursor sender := by
  rw [← after_append, cursor_after, cursor_after, acknowledged_append]
  cases a with
  | reply id r => exact absurd rfl (hreply id r)
  | sweep now => exact absurd rfl (hsweep now)
  | begin _ _ | enter _ | cancel _ => rfl

/-- The reply to a request is of the kind that the task waits for. -/
theorem awaits_reply (ht : t ∈ (e.after past).tasks) (hstage : t.stage = .calling call) (c : Client)
    (delivery : Delivery) : t.awaits (c.reply call delivery) = true := by
  obtain ⟨-, hcall⟩ := (e.sound_after past).calls t ht call hstage
  obtain ⟨id, op, handle, stage⟩ := t
  cases hstage
  cases op with
  | retrieve sender =>
    rw [hcall]
    rfl
  | save r =>
    rw [hcall, request]
    split
    · rfl
    · rfl

/-- **A reply moves the cursor of its sender to the one that the payload of a clean answer names.**
Whatever else comes back leaves it alone. -/
theorem cursor_reply (ht : t ∈ (e.after past).tasks) (hstage : t.stage = .calling call)
    (c : Client) (delivery : Delivery) :
    let after := (e.step (e.after past) (.reply t.id (c.reply call delivery))).1.cache.cursor
    (∀ p, call.Receives delivery p → after t.sender = call.cursorOf p) ∧
      ((∀ p, ¬ call.Receives delivery p) →
        after t.sender = (e.after past).cache.cursor t.sender) ∧
      ∀ sender ≠ t.sender, after sender = (e.after past).cache.cursor sender := by
  have hactor : e.actor? ⟨past, .reply t.id (c.reply call delivery)⟩ = some t :=
    EngineState.actor?_reply.2 ⟨(e.sound_after past).task?_eq_some.2 ⟨ht, rfl⟩,
      awaits_reply ht hstage c delivery⟩
  -- Only the cursor of this sender can move, and only to one that the reply tells.
  have hafter : ∀ sender,
      (e.step (e.after past) (.reply t.id (c.reply call delivery))).1.cache.cursor sender =
        ((if t.sender = sender then
          (c.reply call delivery).cursor?.or (e.acknowledged sender past)
          else e.acknowledged sender past).map RemoteCursor.toCursor).getD .initial := by
    intro sender
    rw [← after_append, cursor_after, acknowledged_append, acknowledge, hactor]
    simp only [Option.any_some, decide_eq_true_eq]
  refine ⟨fun p hp => ?_, fun hnone => ?_, fun sender hne => ?_⟩
  · obtain ⟨q, hq, hcursor⟩ | ⟨hnone, -⟩ := c.cursor?_reply call delivery
    · obtain ⟨cursor, hsome, hcursor⟩ := Option.map_eq_some_iff.1 hcursor
      rw [hafter, if_pos rfl, hsome, hp.unique hq, ← hcursor]
      rfl
    · exact absurd hp (hnone p)
  · obtain ⟨q, hq, -⟩ | ⟨-, hcursor⟩ := c.cursor?_reply call delivery
    · exact absurd hq (hnone q)
    · rw [hafter, if_pos rfl, hcursor, Option.none_or, cursor_after]
  · rw [hafter, if_neg (Ne.symm hne), cursor_after]

/-- **Only the payload of a clean answer moves a cursor.**  An answer fails for its status, else
because it cannot be decoded, else for the errors that it names, all of their messages in order,
and else, if it answers a write, because it has no payload; otherwise it is what its payload says,
or nothing.  In a run, a save or a retrieve moves the cursor of its sender when an answer comes that
is none of these failures, to the cursor that its payload names; no other answer moves any
cursor. -/
theorem only_clean_answers_count (e : Engine) (c : Client) :
    (∀ call status content,
      let r := c.reply call (.answered status (.bytes content))
      (∀ code text, r.error? = some (.status code text) ↔
        ¬ (200 ≤ status ∧ status < 300) ∧ code = status ∧ text = Utf8.decodeLossy content) ∧
      ((∃ what, r.error? = some (.decode what)) ↔
        (200 ≤ status ∧ status < 300) ∧ ¬ call.Decodes content) ∧
      (∀ messages, r.error? = some (.graphQl messages) ↔
        (200 ≤ status ∧ status < 300) ∧ call.Decodes content ∧ messages ≠ [] ∧
          messages = Answer.messages (Document.ofBytes content).root) ∧
      ((∃ what, r.error? = some (.emptyResponse what)) ↔
        call.IsClean status content ∧ call.isWrite = true ∧ call.payload? content = none) ∧
      (r.error? = none ↔ call.IsClean status content ∧
        (call.isWrite = true → call.payload? content ≠ none)) ∧
      (r.error? = none → match call.payload? content with
        | some p => call.Brings p r
        | none => r = .fetched (.ok none))) ∧
    (∀ past a sender, (∀ id r, a ≠ .reply id r) → (∀ now, a ≠ .sweep now) →
      (e.step (e.after past) a).1.cache.cursor sender = (e.after past).cache.cursor sender) ∧
    ∀ past, ∀ t ∈ (e.after past).tasks, ∀ call, t.stage = .calling call → ∀ delivery,
      let after := (e.step (e.after past) (.reply t.id (c.reply call delivery))).1.cache.cursor
      (∀ p, call.Receives delivery p → after t.sender = call.cursorOf p) ∧
      ((∀ p, ¬ call.Receives delivery p) →
        after t.sender = (e.after past).cache.cursor t.sender) ∧
      ∀ sender ≠ t.sender, after sender = (e.after past).cache.cursor sender := by
  refine ⟨fun call status content => ?_, fun past a sender => cursor_step,
    fun past t ht call hstage => cursor_reply ht hstage c⟩
  have h := c.judged_reply call status content
  exact ⟨fun _ _ => h.status_iff, h.decode_iff, fun _ => h.graphQl_iff, h.emptyResponse_iff,
    h.ok_iff, h.result⟩

/-! ### Two answers to a first save -/

/-- An answer with the cursor of a new conversation. -/
def insertedAnswer : List UInt8 :=
  Utf8.encode "\x7b\"data\":\x7b\"insertTrackerStore\":\x7b\"lastIndex\":3\x7d\x7d\x7d"

/-- The same answer with an error beside the data. -/
def faultyAnswer : List UInt8 :=
  Utf8.encode ("\x7b\"data\":\x7b\"insertTrackerStore\":\x7b\"lastIndex\":3\x7d\x7d," ++
    "\"errors\":[\x7b\"message\":\"too late\"\x7d]\x7d")

/-- The first answer moves the cursor, and the second one is a failure and does not. -/
theorem only_clean_answers_count_firstSave :
    let c : Client := ⟨"http://store.test/graphql", none, 30⟩
    let call := Call.insert (heardEngine.writeRequest "ann" (conversation [1]))
    let after content := (heardEngine.step (heardEngine.after firstSave)
      (.reply 0 (c.reply call (.answered 200 (.bytes content))))).1.cache.cursor "ann"
    (after insertedAnswer).lastIndex = 3 ∧ (after faultyAnswer).lastIndex = -1 ∧
      (c.reply call (.answered 200 (.bytes faultyAnswer))).error? =
        some (.graphQl ["too late"]) := by
  intro c call after
  obtain ⟨hjudged, -, hmoves⟩ := only_clean_answers_count heardEngine c
  have ht : ⟨0, .save (conversation [1]), 0, .calling call⟩ ∈ (heardEngine.after firstSave).tasks :=
    List.mem_singleton.2 rfl
  have hmoves := hmoves firstSave _ ht call rfl
  have hmessages : Answer.messages (Document.ofBytes insertedAnswer).root = [] := by
    decide +kernel
  have hmessages' : Answer.messages (Document.ofBytes faultyAnswer).root = ["too late"] := by
    decide +kernel
  have hdecodes : ∀ content, ((Document.ofBytes content).decode
      (Answer.decode call.operation.field RemoteCursor.decode)).toBool = true →
      call.Decodes content := by
    intro content h
    cases hdecoded : (Document.ofBytes content).decode
        (Answer.decode call.operation.field RemoteCursor.decode) with
    | error fault =>
      rw [hdecoded] at h
      cases h
    | ok a => exact ⟨a, hdecoded⟩
  obtain ⟨p, hp⟩ := Option.isSome_iff_exists.1
    (show (call.payload? insertedAnswer).isSome = true by decide +kernel)
  have hreceives : call.Receives (.answered 200 (.bytes insertedAnswer)) p :=
    ⟨200, insertedAnswer, rfl, ⟨by decide, hdecodes _ (by decide +kernel), hmessages⟩, hp⟩
  have hnone : ∀ p, ¬ call.Receives (.answered 200 (.bytes faultyAnswer)) p := by
    rintro p ⟨status, content, heq, ⟨-, -, hclean⟩, -⟩
    cases heq
    cases hclean.symm.trans hmessages'
  have hindex : ((call.payload? insertedAnswer).map fun p => (call.cursorOf p).lastIndex) =
      some 3 := by
    decide +kernel
  rw [hp, Option.map_some, Option.some.injEq] at hindex
  refine ⟨?_, ?_, ?_⟩
  · rw [← hindex]
    exact congrArg Cursor.lastIndex ((hmoves _).1 p hreceives)
  · exact congrArg Cursor.lastIndex ((hmoves _).2.1 hnone)
  · exact ((hjudged call 200 faultyAnswer).2.2.1 _).2
      ⟨by decide, hdecodes _ (by decide +kernel), by simp, hmessages'.symm⟩

end Engine

end DialogueStore
