/-
What a PUT of a conversation changes.

The id of the sender stands in the path, and the body may name one as well.  The two are
reconciled before anything else is done, and from there on the id goes through the lock,
the cache, the request to the remote store and the bus as a part of the record.  If the
lock is taken, the request waits: nothing has come of it yet, and it is answered when
its save is done.

* `Service.stores_save`, `Service.waits_save` — a save whose lock is free, and one that waits,
* `Service.put_within_path` — a PUT is refused and changes nothing, or it is one save for the
  sender in the path, now or later.
-/
import DialogueStore.Http.Router
import DialogueStore.Proofs.Answers
import DialogueStore.Proofs.Operations

namespace DialogueStore

namespace Service

open Http

variable {s : Service} {network : Network} {senderId : String} {request : Request}

/-- A request is refused: it is answered with an error, and nothing else happens. -/
def Refuses (s : Service) (p : Performed (Awaited Response)) : Prop :=
  p.service = s ∧ p.sent = [] ∧ ∃ response, p.result = .now response ∧ 400 ≤ response.status

/-- What is answered to a PUT whose save is done. -/
def storedAnswer (stored : Record) : Response :=
  .ok (.events stored.events) (some (trackerPath stored.senderId))

/-- One save of a record has been performed: what is answered, what it has left of the service, and
what was sent. -/
structure Stores (s : Service) (network : Network) (stored : Record)
    (p : Performed (Awaited Response)) : Prop where
  answer : p.result = .now (storedAnswer stored)
  service : p.service = { s with state := p.service.state, bus := p.service.bus }
  tasks : p.service.state.tasks = s.state.tasks
  others : ∀ sender ≠ stored.senderId,
    p.service.state.cache.entry sender = s.state.cache.entry sender
  sent : ∀ post ∈ p.sent, post.body.HandsOver stored.senderId
  test : s.engine.isTest stored.senderId = true →
    p.service.state.cache.entry stored.senderId =
        { s.state.cache.entry stored.senderId with test := some stored } ∧
      p.sent = [] ∧ p.service.bus = s.bus
  normal : s.engine.isTest stored.senderId = false →
    let exchanged := s.client.exchange network (s.engine.writeCall s.state.cache stored)
    p.service.state.cache.entry stored.senderId = { s.state.cache.entry stored.senderId with
        normal := some stored
        cursor := (exchanged.1.cursor?.map RemoteCursor.toCursor).or
          (s.state.cache.entry stored.senderId).cursor } ∧
      p.sent = exchanged.2.toList ∧
      p.service.bus =
        if s.engine.broadcasts then s.bus.publish stored.senderId stored.events else s.bus

/-- One save of a record waits for its lock.  Nothing has come of it but a task in the queue, and the
answer is still to come.  In every run that goes on from here, in which nobody else begins under the
id of the task, all that is ever seen of it is the one save, and the whole of that if it ends without
having been dropped; and when it is done, the request is answered with the events of the record that
is cached then. -/
structure Waits (s : Service) (past : List Action) (named : Record)
    (p : Performed (Awaited Response)) : Prop where
  service : p.service = { s with state := p.service.state }
  sent : p.sent = []
  entry : ∀ sender, p.service.state.cache.entry sender = s.state.cache.entry sender
  begun : p.service.state = s.engine.after (past ++ [.begin s.state.nextId (.save named)])
  tasks : ∃ t, p.service.state.tasks = s.state.tasks ++ [t] ∧ t.id = s.state.nextId ∧
    t.operation = .save (named.anonymize s.engine.anonymize) ∧ t.stage = .queued
  course : ∀ later, (∀ op, .begin s.state.nextId op ∉ later) →
    let id := s.state.nextId
    let stored := named.anonymize s.engine.anonymize
    let actions := past ++ .begin id (.save named) :: later
    ∃ call, call.body.HandsOver stored.senderId ∧
      s.engine.seenOf id actions <+: s.engine.shownBySave id stored call ∧
      ((s.engine.after actions).task? id = none → .cancel id ∉ later →
        s.engine.seenOf id actions = s.engine.shownBySave id stored call)
  answer : ∃ finish, p.result = .later s.state.nextId finish ∧
    ∀ later a outcome, (∀ op, .begin s.state.nextId op ∉ later) →
      let stored := named.anonymize s.engine.anonymize
      let before := s.engine.after (past ++ .begin s.state.nextId (.save named) :: later)
      .done s.state.nextId outcome ∈ (s.engine.step before a).2 →
        finish outcome = storedAnswer stored ∧
        ((s.engine.step before a).1.cache.entry stored.senderId).record
          (s.engine.partition stored.senderId) = some stored

theorem refuses_of_readRecord {response : Response} (h : readRecord request = .error response) :
    400 ≤ response.status := by
  rw [readRecord] at h
  split at h
  · cases h
    decide
  · split at h
    · cases h
      decide
    · split at h
      · cases h
      · cases h
        decide
      · cases h
        decide

/-- A reply is of the kind that its request asks for. -/
theorem takes_exchange (c : Client) (network : Network) (call : Call) :
    call.Takes (c.exchange network call).1 := by
  have hreply : ∀ d, call.Takes (c.reply call d) := by
    intro d
    cases call with
    | fetch _ | insert _ | update _ => trivial
  rw [Client.exchange]
  split
  · exact hreply _
  · split
    · exact hreply _
    · exact hreply _

/-- A request that is sent is that of the call. -/
theorem body_exchange {c : Client} {call : Call} {post : Post}
    (h : (c.exchange network call).2 = some post) : post.body = call.body := by
  rw [Client.exchange] at h
  split at h
  · cases h
  · rename_i posted hposted
    have hbody : posted.body = call.body := by
      rw [Client.post?] at hposted
      split at hposted
      · cases hposted
        rfl
      · cases hposted
    split at h
    · cases h
    · cases h
      exact hbody

/-- What an operation gives is told by its effects. -/
theorem perform_eq {op : Operation} {state : EngineState} {effects : List Effect}
    (h : s.engine.perform s.state (fun call => (s.client.exchange network call).1) op =
      (state, effects)) :
    s.perform network op =
      { service := { s with state, bus := effects.foldl publish s.bus }
        result := match effects.findSome? Effect.outcome? with
          | some outcome => .now outcome
          | none => .later s.state.nextId id
        sent := (effects.filterMap Effect.call?).filterMap fun call =>
          (s.client.exchange network call).2 } := by
  -- Named, the two halves of the pair let the record be compared field by field.
  obtain rfl : (s.engine.perform s.state (fun call => (s.client.exchange network call).1) op).1 =
    state := congrArg Prod.fst h
  obtain rfl : (s.engine.perform s.state (fun call => (s.client.exchange network call).1) op).2 =
    effects := congrArg Prod.snd h
  rfl

/-- What is seen of an operation that makes a request. -/
theorem effects_of_remote (e : Engine) (op : Operation) (id : Nat) (call : Call)
    (outcome : Outcome) :
    let effects := e.announce op ++ [.call id call] ++ [.done id outcome]
    effects.filterMap Effect.call? = [call] ∧ effects.findSome? Effect.outcome? = some outcome := by
  cases op with
  | retrieve sender => exact ⟨rfl, rfl⟩
  | save r =>
    rw [Engine.announce]
    split
    · exact ⟨rfl, rfl⟩
    · exact ⟨rfl, rfl⟩

/-- An operation whose lock is free is done at once, and no task of it is left. -/
theorem exists_of_free (hs : s.state.Sound s.engine) (network : Network) {op : Operation}
    (hfree : s.state.cache.locks.isLocked op.sender = false) :
    ∃ outcome, (s.perform network op).result = .now outcome ∧
      (s.perform network op).service.state.Sound s.engine ∧
      (s.perform network op).service.state.tasks = s.state.tasks ∧
      (s.perform network op).service.engine = s.engine := by
  -- A test sender is served from the cache, every other one by an exchange with the remote.
  cases htest : s.engine.isTest op.sender with
  | true =>
    obtain ⟨state, hperform, hchanges⟩ := Engine.perform_local hs
      (fun call => (s.client.exchange network call).1) hfree htest
    rw [perform_eq hperform]
    exact ⟨_, rfl, hchanges.sound, hchanges.tasks, rfl⟩
  | false =>
    obtain ⟨state, hperform, hchanges⟩ :=
      Engine.perform_remote hs (takes_exchange s.client network) hfree htest
    obtain ⟨-, houtcome⟩ := effects_of_remote s.engine (op.anonymize s.engine.anonymize)
      s.state.nextId _ _
    rw [perform_eq hperform, houtcome]
    exact ⟨_, rfl, hchanges.sound, hchanges.tasks, rfl⟩

/-! ### Requests that come alone -/

/-- A service between two requests: nothing is under way. -/
structure Idle (s : Service) : Prop where
  sound : s.state.Sound s.engine
  tasks : s.state.tasks = []

/-- Something is answered at once, and nothing of it is under way afterwards. -/
def AtOnce {α : Type} (p : Performed (Awaited α)) : Prop :=
  (∃ a, p.result = .now a) ∧ p.service.Idle

theorem AtOnce.map {α β : Type} {p : Performed (Awaited α)} (h : AtOnce p) (f : α → β) :
    AtOnce (p.map (.map f)) := by
  obtain ⟨⟨a, ha⟩, hidle⟩ := h
  refine ⟨⟨f a, ?_⟩, hidle⟩
  rw [Performed.map, ha]
  rfl

theorem idle_ofConfig {config : Config} {client : Client} {domain : Option Domain}
    (h : ofConfig config client domain = .ok s) : s.Idle := by
  rw [ofConfig] at h
  cases hengine : Engine.ofConfig config Privacy.anonymizeText true domain with
  | error _ =>
    rw [hengine] at h
    cases h
  | ok engine =>
    rw [hengine] at h
    cases h
    exact ⟨EngineState.sound_empty, rfl⟩

theorem Idle.perform (h : s.Idle) (network : Network) (op : Operation) :
    AtOnce (s.perform network op) := by
  obtain ⟨outcome, hresult, hsound, htasks, hengine⟩ :=
    exists_of_free h.sound network (h.sound.isLocked_of_no_tasks h.tasks op.sender)
  exact ⟨⟨outcome, hresult⟩, hengine ▸ hsound, htasks.trans h.tasks⟩

theorem Idle.sweep (h : s.Idle) (now : Float) : (s.sweep now).service.Idle :=
  ⟨h.sound.swept now, h.tasks⟩

theorem Idle.putTracker (h : s.Idle) (network : Network) (senderId : String) (r : Request) :
    AtOnce (s.putTracker network senderId r) := by
  rw [Service.putTracker]
  split
  · exact ⟨⟨_, rfl⟩, h⟩
  · split
    · exact ⟨⟨_, rfl⟩, h⟩
    · exact ((h.perform network _).map _).map _

theorem Idle.getTracker (h : s.Idle) (network : Network) (senderId : String) :
    AtOnce (s.getTracker network senderId) :=
  (((h.perform network _).map _).map _).map _

theorem Idle.dispatch (h : s.Idle) (network : Network) (now : Float) (r : Request) (route : Route) :
    AtOnce (s.dispatch network now r route) := by
  cases route with
  | health => exact ⟨⟨_, rfl⟩, h⟩
  | sweep => exact ⟨⟨_, rfl⟩, h.sweep now⟩
  | tracker segment =>
    rw [Service.dispatch]
    split
    · exact ⟨⟨_, rfl⟩, h⟩
    · split
      · exact h.putTracker network _ r
      · exact h.getTracker network _

/-- **A request that comes alone is answered at once**, and leaves nothing under way. -/
theorem Idle.respond (h : s.Idle) (network : Network) (now : Float) (r : Request) :
    AtOnce (s.respond network now r) := by
  rw [Service.respond]
  split
  · exact ⟨⟨_, rfl⟩, h⟩
  · split
    · exact ⟨⟨_, rfl⟩, h⟩
    · split
      · exact ⟨⟨_, rfl⟩, h⟩
      · exact (h.dispatch network now r _).map _

/-- What is answered to such a request is what it is answered at once. -/
theorem Idle.handle (h : s.Idle) (network : Network) (now : Float) (r : Request) :
    (s.respond network now r).result = .now (s.handle network now r).result ∧
      (s.handle network now r).service.Idle := by
  obtain ⟨⟨response, hresponse⟩, hidle⟩ := h.respond network now r
  refine ⟨?_, hidle⟩
  rw [Service.handle, Performed.map, hresponse]
  rfl

/-! ### Saves -/

/-- A save whose lock is free is one save. -/
theorem stores_save (hs : s.state.Sound s.engine) {record : Record}
    (hfree : s.state.cache.locks.isLocked record.senderId = false) :
    Stores s network (record.anonymize s.engine.anonymize)
      ((s.save network record).map (.map fun events =>
        .ok (.events events) (some (trackerPath record.senderId)))) := by
  replace hfree : s.state.cache.locks.isLocked (Operation.save record).sender = false := hfree
  have hothers : ∀ {x : Entry} {state : EngineState},
      s.engine.Changes s.state record.senderId x state →
      ∀ sender ≠ record.senderId, state.cache.entry sender = s.state.cache.entry sender :=
    fun h sender hne => (h.entry sender).trans (if_neg (Ne.symm hne))
  cases htest : s.engine.isTest record.senderId with
  | true =>
    obtain ⟨state, hperform, hchanges⟩ := Engine.perform_local hs
      (fun call => (s.client.exchange network call).1) hfree htest
    rw [save, perform_eq hperform]
    exact {
      answer := rfl
      service := rfl
      tasks := hchanges.tasks
      others := hothers hchanges
      sent := nofun
      test := fun _ => ⟨(hchanges.entry record.senderId).trans (if_pos rfl), rfl, rfl⟩
      normal := fun hnormal => by cases htest.symm.trans hnormal }
  | false =>
    obtain ⟨state, hperform, hchanges⟩ :=
      Engine.perform_remote hs (takes_exchange s.client network) hfree htest
    obtain ⟨call, hcall⟩ : ∃ call, s.engine.request (s.state.cache.entry record.senderId)
      (.save (record.anonymize s.engine.anonymize)) = call := ⟨_, rfl⟩
    have hwrite : s.engine.writeCall s.state.cache (record.anonymize s.engine.anonymize) = call :=
      (Engine.writeCall_eq s.state.cache).trans hcall
    have htakes : (s.engine.request (s.state.cache.entry record.senderId)
        (.save (record.anonymize s.engine.anonymize))).Takes
          (s.client.exchange network call).1 := by
      rw [hcall]
      exact takes_exchange s.client network call
    -- Whatever the remote answers, the record is cached, and its events are what is reported.
    have hcached := Engine.conclude_of_takes (x := s.state.cache.entry record.senderId) htakes
    obtain ⟨-, hsaved⟩ := Engine.conclude_save (e := s.engine) (s.state.cache.entry record.senderId)
      (record.anonymize s.engine.anonymize) (s.client.exchange network call).1
    obtain ⟨hcalls, houtcome⟩ := effects_of_remote s.engine
      (.save (record.anonymize s.engine.anonymize)) s.state.nextId call
      (.saved (record.anonymize s.engine.anonymize).events)
    simp only [Operation.sender, Operation.anonymize, hcall, hsaved] at hperform hchanges
    rw [save, perform_eq hperform, hcalls, houtcome]
    exact {
      answer := rfl
      service := rfl
      tasks := hchanges.tasks
      others := hothers hchanges
      sent := by
        intro post hpost
        -- There is one call, and so at most one request.
        obtain ⟨_, hmem, hpost⟩ := List.mem_filterMap.1 hpost
        rw [List.mem_singleton.1 hmem] at hpost
        rw [body_exchange hpost, ← hcall]
        exact Engine.handsOver_request _
      test := fun hnormal => by cases htest.symm.trans hnormal
      normal := fun _ => by
        have hentry := hchanges.entry record.senderId
        rw [if_pos rfl, hcached] at hentry
        rw [hwrite]
        refine ⟨hentry, ?_, ?_⟩
        · exact (List.filterMap_eq_flatMap_toList _ _).trans (List.flatMap_singleton ..)
        · -- Of the three effects only the first one, if there is one, is for the bus.
          show (s.engine.announce _ ++ [_] ++ [_]).foldl publish s.bus = _
          rw [Engine.announce]
          cases s.engine.broadcasts <;> rfl }

/-- A save whose lock is taken waits. -/
theorem waits_save {past : List Action} (hs : s.state = s.engine.after past) {record : Record}
    (hlocked : s.state.cache.locks.isLocked record.senderId = true) :
    Waits s past record ((s.save network record).map (.map fun events =>
      .ok (.events events) (some (trackerPath record.senderId)))) := by
  have hsound : s.state.Sound s.engine := hs ▸ s.engine.sound_after past
  have hnew : (s.engine.after past).task? s.state.nextId = none := hs ▸ s.state.task?_nextId
  obtain ⟨state, t, hperform, hbegin, htasks, hid, hop, hstage, hentry⟩ := Engine.perform_waits
    hsound (fun call => (s.client.exchange network call).1)
    (show s.state.cache.locks.isLocked (Operation.save record).sender = true from hlocked)
  have hbegun : state = s.engine.after (past ++ [.begin s.state.nextId (.save record)]) := by
    rw [Engine.after_append, ← hs, hbegin]
  -- From here on the run of the engine is told by the course of this one task.
  have hcourse : ∀ later, (∀ op, .begin s.state.nextId op ∉ later) →
      s.engine.Course s.state.nextId (record.anonymize s.engine.anonymize)
        (.cancel s.state.nextId ∈ later) (past ++ .begin s.state.nextId (.save record) :: later) :=
    fun later hlater => Engine.course_of_save hnew hlater
  rw [save, perform_eq hperform]
  exact {
    service := rfl
    sent := rfl
    entry := hentry
    begun := hbegun
    tasks := ⟨t, htasks, hid, hop, hstage⟩
    course := fun later hlater => (hcourse later hlater).seen
    answer := by
      refine ⟨_, rfl, ?_⟩
      intro later a outcome hlater stored before hdone
      obtain ⟨rfl, hcached⟩ := (hcourse later hlater).done hdone
      exact ⟨rfl, hcached⟩ }

/-- **A PUT can only touch the conversation that its path names.**  Whatever else is under way, it is
refused and changes nothing, as it is if its body names another sender; or it is one save of the
record under the sender in the path.  While the lock of that sender is free, the save is performed at
once and the answer has the events that are cached; while it is taken, the save waits, and the answer
is given, with the events that are cached then, when the save is done.  Whatever is done later, a
step of a save moves only what is its own. -/
theorem put_within_path (s : Service) (past : List Action) (hs : s.state = s.engine.after past)
    (network : Network) (senderId : String) (request : Request) :
    (∀ record, readRecord request = .ok record → record.senderId ≠ "" →
      record.senderId ≠ senderId → s.Refuses (s.putTracker network senderId request)) ∧
    (s.Refuses (s.putTracker network senderId request) ∨
      ∃ record, readRecord request = .ok record ∧
        (record.senderId = "" ∨ record.senderId = senderId) ∧
        let named := { record with senderId }
        (named.anonymize s.engine.anonymize).senderId = senderId ∧
        (s.state.cache.locks.isLocked senderId = false →
          s.Stores network (named.anonymize s.engine.anonymize)
            (s.putTracker network senderId request)) ∧
        (s.state.cache.locks.isLocked senderId = true →
          s.Waits past named (s.putTracker network senderId request))) ∧
    ∀ later a t stored, ((s.engine.after later).actor? a) = some t → t.operation = .save stored →
      s.engine.MovesOnlyOwn (s.engine.after later) t stored (s.engine.step (s.engine.after later) a).1
        (s.engine.step (s.engine.after later) a).2 := by
  have hsound : s.state.Sound s.engine := hs ▸ s.engine.sound_after past
  refine ⟨fun record hread hnamed hother => ?_, ?_, fun later a t stored hactor hop =>
    Engine.moves_only_own (s.engine.sound_after later) hactor hop⟩
  · rw [putTracker, hread]
    dsimp only
    rw [if_pos ⟨hnamed, hother⟩]
    exact ⟨rfl, rfl, _, rfl, Nat.le_refl 400⟩
  · cases hread : readRecord request with
    | error response =>
      rw [putTracker, hread]
      -- A body that cannot be read is refused before the engine is asked.
      exact .inl ⟨rfl, rfl, response, rfl, refuses_of_readRecord hread⟩
    | ok record =>
      rw [putTracker, hread]
      dsimp only
      split
      · exact .inl ⟨rfl, rfl, _, rfl, Nat.le_refl 400⟩
      · -- The body agrees with the path, and the lock decides whether the save is performed now.
        rename_i hnamed
        have hagree : record.senderId = "" ∨ record.senderId = senderId := by tauto
        refine .inr ⟨record, rfl, hagree, rfl, fun hfree => ?_, fun hlocked => ?_⟩
        · exact stores_save hsound hfree
        · exact waits_save hs hlocked

theorem isTokenChar_eq : isTokenChar = fun c =>
    ('0' ≤ c && c ≤ '9') || ('a' ≤ c && c ≤ 'z') || ('A' ≤ c && c ≤ 'Z') ||
      decide (c ∈ "!#$%&'*+-.^_`|~".toList) := by
  funext c
  rw [isTokenChar, String.contains_char_eq]

theorem isJsonType_json : isJsonType "application/json" = true := by
  rw [isJsonType, isTokenChar_eq]
  decide +kernel

/-- The sender that a JSON body names. -/
theorem exists_of_readRecord (path : String) (body : List UInt8) {name : String}
    (hlimit : body.length ≤ bodyLimit)
    (hname : (((Json.Document.ofBytes body).decode Record.decode).toOption.map (·.senderId)) =
      some name) :
    ∃ record, readRecord ⟨"PUT", path, [("content-type", "application/json")], body⟩ = .ok record ∧
      record.senderId = name := by
  have htype : Request.header?
      ⟨"PUT", path, [("content-type", "application/json")], body⟩ "content-type" =
        some "application/json" := rfl
  cases hdecoded : (Json.Document.ofBytes body).decode Record.decode with
  | error fault =>
    rw [hdecoded] at hname
    cases hname
  | ok record =>
    rw [hdecoded] at hname
    refine ⟨record, ?_, Option.some.inj hname⟩
    rw [readRecord, htype, Option.any_some, isJsonType_json, if_neg (by simp),
      if_neg (Nat.not_lt.2 hlimit), hdecoded]

/-- A PUT whose body names nobody is one save. -/
theorem putTracker_of_unnamed {record : Record} (hread : readRecord request = .ok record)
    (hunnamed : record.senderId = "") : s.putTracker network senderId request =
      (s.save network { record with senderId }).map (.map fun events =>
        .ok (.events events) (some (trackerPath senderId))) := by
  rw [putTracker, hread]
  exact if_neg fun h => h.1 hunnamed

theorem not_refuses_of_unnamed {record : Record} (hread : readRecord request = .ok record)
    (hunnamed : record.senderId = "") : ¬ s.Refuses (s.putTracker network senderId request) := by
  rintro ⟨-, -, response, hresult, hstatus⟩
  rw [putTracker_of_unnamed hread hunnamed, Performed.map] at hresult
  -- What a save is answered with is no error, and if it waits there is no answer yet.
  cases hsaved : (s.save network { record with senderId }).result with
  | now events =>
    rw [hsaved] at hresult
    cases hresult
    exact absurd hstatus (show ¬ 400 ≤ 200 by decide)
  | later id finish =>
    rw [hsaved] at hresult
    cases hresult

/-- What happens until the save behind `firstSave` is done. -/
def turnsOfAnn : List Action :=
  [.reply 0 (.written (.ok ⟨some 0, some 1⟩)), .enter 1, .reply 1 (.written (.error (.timeout 30)))]

/-- Nobody is named in the first body, and the other one names somebody else.  Where a save of the same
sender is under way, the first one waits for its turn, and then it is published and sent once. -/
theorem put_within_path_ann :
    let s (past : List Action) : Service := ⟨Engine.heardEngine,
      ⟨"http://store.test/graphql", none, 30⟩, ⟨256, 0, [], [], true⟩, Engine.heardEngine.after past⟩
    let put past body := (s past).putTracker (fun _ => .unreachable) "ann"
      ⟨"PUT", "/api/v1/trackers/ann", [("content-type", "application/json")], Utf8.encode body⟩
    (∃ stored, stored.senderId = "ann" ∧ (put [] "\x7b\x7d").result = .now (storedAnswer stored) ∧
      ((put [] "\x7b\x7d").service.state.cache.entry "ann").normal = some stored ∧
      (put [] "\x7b\x7d").service.state.cache.entry "bob" = {}) ∧
    (put [] "\x7b\"sender_id\":\"bob\"\x7d").service = s [] ∧
    ∃ named call finish, (put Engine.firstSave "\x7b\x7d").result = .later 1 finish ∧
      let stored := named.anonymize Engine.heardEngine.anonymize
      Engine.heardEngine.seenOf 1 (Engine.firstSave ++ .begin 1 (.save named) :: turnsOfAnn) =
        [.publish "ann" stored.events, .call 1 call, .done 1 (.saved stored.events)] := by
  intro s put
  obtain ⟨unnamed, hread, hunnamed⟩ := exists_of_readRecord "/api/v1/trackers/ann"
    (Utf8.encode "\x7b\x7d") (by decide +kernel) (show _ = some "" by decide +kernel)
  refine ⟨?_, ?_, ?_⟩
  · obtain ⟨-, hrefused | ⟨record, -, -, hsender, hstores, -⟩, -⟩ :=
      put_within_path (s []) [] rfl (fun _ => .unreachable) "ann" _
    · exact absurd hrefused (not_refuses_of_unnamed hread hunnamed)
    · have hstored := hstores rfl
      exact ⟨_, hsender, hstored.answer, congrArg Entry.normal (hstored.normal rfl).1,
        hstored.others "bob" (by rw [hsender]; decide)⟩
  · obtain ⟨named, hread, hname⟩ := exists_of_readRecord "/api/v1/trackers/ann"
      (Utf8.encode "\x7b\"sender_id\":\"bob\"\x7d") (by decide +kernel)
      (show _ = some "bob" by decide +kernel)
    obtain ⟨hmismatch, -⟩ := put_within_path (s []) [] rfl (fun _ => .unreachable) "ann" _
    exact (hmismatch named hread (by rw [hname]; decide) (by rw [hname]; decide)).1
  · obtain ⟨-, hrefused | ⟨record, -, -, hsender, -, hwaits⟩, -⟩ :=
      put_within_path (s Engine.firstSave) Engine.firstSave rfl (fun _ => .unreachable) "ann" _
    · exact absurd hrefused (not_refuses_of_unnamed hread hunnamed)
    · have hwaiting := hwaits rfl
      obtain ⟨finish, hresult, -⟩ := hwaiting.answer
      obtain ⟨call, -, -, hall⟩ :=
        hwaiting.course turnsOfAnn (by intro op h; simp [turnsOfAnn] at h)
      exact ⟨_, call, finish, hresult, hall rfl (by simp [turnsOfAnn])⟩

end Service

end DialogueStore
