/-
Nothing sensitive that a user wrote gets into the cache, or out of the engine.

An engine anonymizes a record when it is asked to save it, and never afterwards.  From
then on the record is cut, handed over, published, cached and merged.  That all of it
stays anonymous takes three facts: anonymizing once is enough (`Record.anonymize_idem`),
cutting and merging bring no new text (`Record.mem_userTexts_withEvents`,
`Record.mem_userTexts_merge`), and there is no other way into the cache than saves and
snapshots (`Engine.all_entry`).

* `Engine.all_anonymous` — every cached record is anonymous,
* `Engine.nothing_sensitive_leaves` — and so is everything that others get to see.

Both are for engines that anonymize by the rules, and for remote stores that hold
anonymous conversations to begin with.
-/
import DialogueStore.Proofs.Records
import DialogueStore.Proofs.Redaction
import DialogueStore.Proofs.UserTexts
import DialogueStore.Proofs.Delivery

namespace DialogueStore

/-! ### Anonymous records -/

/-- Some texts have no match of any rule, so that there is nothing to replace in them. -/
def Privacy.Anonymous (texts : List String) : Prop :=
  ∀ text ∈ texts, ∀ rule ∈ rules, rule.pattern.FreeIn text.toList

theorem Privacy.anonymous_iff {texts : List String} :
    Anonymous texts ↔ ∀ text ∈ texts, anonymizeText text = text := by
  rw [Anonymous]
  simp only [anonymizeText_eq_self_iff]

/-- Anonymizing once more changes nothing in some events, and in their texts there is nothing
sensitive. -/
structure AnonymousEvents (events : List Event) : Prop where
  fixed : events.map (Event.anonymize Privacy.anonymizeText) = events
  free : Privacy.Anonymous (userTextsOf events)

namespace Record

variable {r : Record}

/-- Anonymizing once more changes nothing in a record, and in its texts there is nothing
sensitive. -/
structure IsAnonymous (r : Record) : Prop where
  fixed : r.anonymize Privacy.anonymizeText = r
  free : Privacy.Anonymous r.userTexts

theorem isAnonymous_iff : r.IsAnonymous ↔ Privacy.Anonymous r.userTexts := by
  constructor
  · exact fun h => h.free
  · intro h
    exact ⟨anonymize_eq_self_iff.2 (Privacy.anonymous_iff.1 h), h⟩

/-- The records that anonymizing leaves as they are hold nothing sensitive. -/
theorem isAnonymous_of_fixed (h : r.anonymize Privacy.anonymizeText = r) : r.IsAnonymous :=
  ⟨h, Privacy.anonymous_iff.2 (anonymize_eq_self_iff.1 h)⟩

/-- Anonymizing once is enough. -/
theorem anonymize_idem {f : String → String} (hf : ∀ text, f (f text) = f text) (r : Record) :
    (r.anonymize f).anonymize f = r.anonymize f := by
  rw [anonymize_eq_self_iff, userTexts_anonymize]
  intro text htext
  obtain ⟨original, -, rfl⟩ := List.mem_map.1 htext
  exact hf original

theorem isAnonymous_anonymize (r : Record) : (r.anonymize Privacy.anonymizeText).IsAnonymous :=
  isAnonymous_of_fixed (anonymize_idem Privacy.anonymizeText_idem r)

namespace IsAnonymous

theorem withEvents (h : r.IsAnonymous) {events : List Event}
    (hevents : ∀ event ∈ events, event ∈ r.events) : (r.withEvents events).IsAnonymous := by
  rw [isAnonymous_iff]
  intro text htext
  exact h.free text (mem_userTexts_withEvents hevents htext)

theorem merge {sender : String} {cached : Option Record} {maxEvents : Nat} (h : r.IsAnonymous)
    (hcached : ∀ c ∈ cached, c.IsAnonymous) :
    (Record.merge sender cached r maxEvents).IsAnonymous := by
  rw [isAnonymous_iff]
  intro text htext
  rcases mem_userTexts_merge htext with htext | ⟨c, hc, htext⟩
  · exact h.free text htext
  · exact (hcached c hc).free text htext

theorem events (h : r.IsAnonymous) : AnonymousEvents r.events := by
  have hfree : Privacy.Anonymous (userTextsOf r.events) := by
    intro text htext
    exact h.free text (List.mem_append_right _ htext)
  exact ⟨map_anonymize_eq_self_iff.2 (Privacy.anonymous_iff.1 hfree), hfree⟩

end IsAnonymous

end Record

/-- Others see nothing sensitive in an effect. -/
def Effect.IsAnonymous : Effect → Prop
  | .publish _ events => AnonymousEvents events
  | .call _ (.insert request) => request.tracker.IsAnonymous
  | .call _ (.update request) => request.tracker.IsAnonymous
  | .call _ (.fetch _) => True
  | .done _ (.saved events) => AnonymousEvents events
  | .done _ (.retrieved record) => ∀ r ∈ record, r.IsAnonymous
  | .swept _ => True

/-! ### Runs -/

namespace Engine

variable {e : Engine} {actions : List Action}

/-- The snapshots of a run are anonymous. -/
def SnapshotsAnonymous (actions : List Action) : Prop :=
  ∀ id snapshot, .reply id (.fetched (.ok (some snapshot))) ∈ actions →
    snapshot.tracker.anonymize Privacy.anonymizeText = snapshot.tracker

theorem SnapshotsAnonymous.of_append {l l' : List Action} (h : SnapshotsAnonymous (l ++ l')) :
    SnapshotsAnonymous l :=
  fun id snapshot hreply => h id snapshot (List.mem_append_left _ hreply)

variable (hanonymize : e.anonymize = Privacy.anonymizeText)

include hanonymize

/-- A record that is being saved has been anonymized when its task began. -/
theorem isAnonymous_of_save {t : Task} {r : Record} (ht : t ∈ (e.after actions).tasks)
    (hop : t.operation = .save r) : r.IsAnonymous := by
  obtain ⟨original, -, rfl⟩ := e.begun_of_save ht hop
  rw [hanonymize]
  exact original.isAnonymous_anonymize

theorem brings_anonymous (hremote : SnapshotsAnonymous actions) {m : Moment}
    (hm : m ∈ moments actions) {t : Task} (hactor : e.actor? m = some t) {x : Entry} :
    e.Brings Record.IsAnonymous x t m.action := by
  refine ⟨?_, ?_⟩
  · intro r hop
    exact isAnonymous_of_save hanonymize (EngineState.mem_of_actor? hactor) hop
  · intro id snapshot haction hcached
    have hfixed := hremote id snapshot (haction ▸ mem_of_mem_moments hm)
    exact (Record.isAnonymous_of_fixed hfixed).merge hcached

/-- **Every cached record is anonymous.** -/
theorem all_anonymous (hremote : SnapshotsAnonymous actions) (sender : String) :
    ((e.after actions).cache.entry sender).All Record.IsAnonymous :=
  all_entry actions fun _ hm _ hactor _ => brings_anonymous hanonymize hremote hm hactor

/-- A request holds what is being saved, or a part of it, or no record at all. -/
theorem isAnonymous_request {t : Task} {id : Nat} (ht : t ∈ (e.after actions).tasks) (x : Entry) :
    (Effect.call id (e.request x t.operation)).IsAnonymous := by
  cases hop : t.operation with
  | retrieve sender => trivial
  | save r =>
    have hr := isAnonymous_of_save hanonymize ht hop
    rw [request]
    split
    · exact hr.withEvents fun event hevent => (List.mem_filter.1 hevent).1
    · exact hr

/-- **Nothing sensitive that a user wrote gets into the cache, or out of the engine.**  If the
engine anonymizes by the rules and the remote store holds anonymous conversations, then every cached
record is anonymous, and so is every record that is handed over, every list of events that is
published, and every outcome. -/
theorem nothing_sensitive_leaves (hremote : SnapshotsAnonymous actions) :
    (∀ p sender r, (e.after actions).cache.get? p sender = some r → r.IsAnonymous) ∧
      ∀ effect ∈ (e.run {} actions).2, effect.IsAnonymous := by
  refine ⟨?_, ?_⟩
  · intro p sender r hr
    rw [Cache.get?_eq] at hr
    exact all_anonymous hanonymize hremote sender p r hr
  · intro effect heffect
    rw [run_effects, List.mem_flatMap] at heffect
    obtain ⟨m, hm, heffect⟩ := heffect
    rcases effect_cases heffect with ⟨t, hactor, -, h | rfl⟩ | ⟨t, hactor, -, h⟩ | ⟨report, rfl⟩
    · -- A broadcast has the events of a save, and these are anonymized when it begins.
      obtain ⟨r, hop, rfl⟩ := mem_announce h
      exact (isAnonymous_of_save hanonymize (EngineState.mem_of_actor? hactor) hop).events
    · -- A request is made of what is cached and of the operation.
      exact isAnonymous_request hanonymize (EngineState.mem_of_actor? hactor) _
    · -- What a retrieve returns is what its task leaves in the cache.
      obtain ⟨rest, hrest⟩ := exists_of_mem_moments hm
      have hpast : SnapshotsAnonymous m.past := (hrest ▸ hremote).of_append
      have hleft := all_leave (all_anonymous hanonymize hpast t.sender)
        (brings_anonymous hanonymize hremote hm hactor)
      obtain ⟨outcome, rfl⟩ := mem_leave h
      cases outcome with
      | saved events =>
        obtain ⟨r, hop, rfl⟩ := events_of_saved h
        exact (isAnonymous_of_save hanonymize (EngineState.mem_of_actor? hactor) hop).events
      | retrieved record =>
        rintro r rfl
        obtain ⟨p, hp⟩ := record_of_retrieved h
        exact hleft p r hp
    · trivial

omit hanonymize

/-! ### A number that is told -/

/-- An engine that anonymizes by the rules and publishes what is saved. -/
def discreetEngine : Engine :=
  { plainEngine with anonymize := Privacy.anonymizeText, broadcasts := true }

/-- A conversation in which a user tells a phone number. -/
def numberTold : Record :=
  { senderId := "ann", events := [⟨"user", 1, [("text", .string "call 040 1234567")]⟩] }

/-- It is saved, and the bot's answer is fetched. -/
def tellNumber : List Action :=
  [.begin 0 (.save numberTold), .enter 0, .reply 0 (.written (.ok ⟨some 0, some 1⟩)),
    .begin 1 (.retrieve "ann"), .enter 1,
    .reply 1 (.fetched (.ok (some ⟨conversation [2], some 1, some 2⟩)))]

/-- What is cached in the end is anonymous. -/
theorem tellNumber_anonymous : discreetEngine.anonymize = Privacy.anonymizeText ∧
    SnapshotsAnonymous tellNumber ∧
    ∃ r, (discreetEngine.after tellNumber).cache.get? .normal "ann" = some r ∧
      r.events.length = 2 ∧ r.IsAnonymous := by
  have hremote : SnapshotsAnonymous tellNumber := by
    intro id snapshot hreply
    obtain ⟨-, rfl⟩ : id = 1 ∧ snapshot = ⟨conversation [2], some 1, some 2⟩ := by
      simpa [tellNumber] using hreply
    rfl
  obtain ⟨r, hr⟩ : ∃ r, (discreetEngine.after tellNumber).cache.get? .normal "ann" = some r :=
    ⟨_, rfl⟩
  have hlength : r.events.length = 2 := by
    cases hr
    rfl
  exact ⟨rfl, hremote, r, hr, hlength,
    (nothing_sensitive_leaves (e := discreetEngine) rfl hremote).1 .normal "ann" r hr⟩

end Engine

end DialogueStore
