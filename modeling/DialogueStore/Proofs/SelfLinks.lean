/-
Where the links of conversations lead.

An answer links to the conversation that it is about by the id of the sender, as it is.  The path
of a request is read in another way: it ends at a question mark or a number sign, a slash ends a
segment, and percent signs begin escapes.  The link leads back for the ids that mean themselves in
a path, and for no others.

* `Percent.decodeBytes_eq_self` — the bytes that hold no escape stand for themselves,
* `Http.ofPath?_eq_tracker` — which paths are those of conversations,
* `Http.leadsTo?_trackerPath` — which links lead back to their senders,
* `Service.self_leads_back` — what the answers link to, and what comes of a request for that.
-/
import DialogueStore.Proofs.Putting
import DialogueStore.Proofs.Utf8

namespace DialogueStore

/-! ### Escapes -/

namespace Percent

variable {bytes : List UInt8}

/-- The bytes hold no escape: no percent sign with two digits after it. -/
def Plain (bytes : List UInt8) : Prop :=
  ∀ high low, [0x25, high, low] <:+: bytes → pair? high low = none

theorem length_decodeBytes_le (bytes : List UInt8) : (decodeBytes bytes).length ≤ bytes.length := by
  fun_induction decodeBytes bytes with
  | case1 high low rest b hpair ih =>
    simp only [List.length_cons]
    omega
  | case2 high low rest hpair ih => exact Nat.succ_le_succ ih
  | case3 b rest hno ih => exact Nat.succ_le_succ ih
  | case4 => exact Nat.le_refl 0

theorem decodeBytes_ne_nil (h : bytes ≠ []) : decodeBytes bytes ≠ [] := by
  fun_cases decodeBytes bytes with
  | case1 | case2 | case3 => exact List.cons_ne_nil _ _
  | case4 => exact (h rfl).elim

theorem plain_cons {b : UInt8} : Plain (b :: bytes) ↔
    (∀ high low, [0x25, high, low] <+: b :: bytes → pair? high low = none) ∧ Plain bytes := by
  simp only [Plain, List.infix_cons_iff, or_imp, forall_and]

/-- **Bytes stand for themselves just if they hold no escape.** -/
theorem decodeBytes_eq_self : decodeBytes bytes = bytes ↔ Plain bytes := by
  fun_induction decodeBytes bytes with
  | case1 high low rest b hpair ih =>
    -- A pair that is decoded makes the text shorter, so that it is no longer the same.
    have hshort := length_decodeBytes_le rest
    constructor
    · intro h
      have hlength := congrArg List.length h
      simp only [List.length_cons] at hlength
      omega
    · intro h
      have hnone := h high low (List.prefix_append [0x25, high, low] rest).isInfix
      cases hpair.symm.trans hnone
  | case2 high low rest hpair ih =>
    rw [List.cons_inj_right, ih, plain_cons (b := 0x25)]
    refine (and_iff_right fun high' low' h => ?_).symm
    simp only [List.cons_prefix_cons] at h
    rw [h.2.1, h.2.2.1, hpair]
  | case3 b rest hno ih =>
    rw [List.cons_inj_right, ih, plain_cons]
    refine (and_iff_right fun high low h => ?_).symm
    obtain ⟨more, hmore⟩ := h
    cases hmore
    exact (hno high low more rfl rfl).elim
  | case4 => exact iff_of_true rfl fun high low h => by simp at h

/-- What a text stands for is no longer than the text, and it is something if the text is. -/
theorem utf8ByteSize_le_of_decode? {s t : String} (h : decode? s = some t) :
    t.utf8ByteSize ≤ s.utf8ByteSize := by
  rw [← Utf8.length_encode, ← Utf8.length_encode, ← Utf8.decode?_eq_some.1 h]
  exact length_decodeBytes_le _

theorem ne_empty_of_decode? {s t : String} (h : decode? s = some t) (hs : s ≠ "") : t ≠ "" := by
  have hbytes : decodeBytes (Utf8.encode s) = Utf8.encode t := Utf8.decode?_eq_some.1 h
  rintro rfl
  refine decodeBytes_ne_nil (fun hnil => hs ?_) (hbytes.trans (List.length_eq_zero_iff.1 ?_))
  · rw [← String.utf8ByteSize_eq_zero_iff, ← Utf8.length_encode, hnil, List.length_nil]
  · rw [Utf8.length_encode, String.utf8ByteSize_eq_zero_iff]

end Percent

/-! ### Paths -/

namespace Http

variable {id path segment : String} {cs : List Char}

namespace Route

theorem segments_eq_splitOn (cs : List Char) : segments cs = cs.splitOn '/' := by
  fun_induction segments cs with
  | case1 => rfl
  | case2 rest ih => rw [List.splitOn_cons_eq_if_modifyHead, if_pos (beq_self_eq_true '/'), ih]
  | case3 c rest hc hrest ih => exact (List.splitOn_ne_nil '/' rest (ih ▸ hrest)).elim
  | case4 c rest hc segment more hrest ih =>
    rw [List.splitOn_cons_eq_if_modifyHead, if_neg (by simpa using hc), ← ih, hrest,
      List.modifyHead_cons]

/-- A path is one segment if it holds no slash. -/
theorem segments_eq_singleton : segments cs = [cs] ↔ '/' ∉ cs := by
  rw [segments_eq_splitOn]
  refine ⟨fun h hmem => ?_, List.splitOn_eq_singleton⟩
  obtain ⟨before, after, rfl⟩ := List.append_of_mem hmem
  rw [List.splitOn_append_cons_self] at h
  have hlength := congrArg List.length h
  have hbefore := List.length_pos_of_ne_nil (List.splitOn_ne_nil '/' before)
  have hafter := List.length_pos_of_ne_nil (List.splitOn_ne_nil '/' after)
  rw [List.length_append, List.length_singleton] at hlength
  omega

end Route

theorem toList_trackerPath (id : String) :
    (trackerPath id).toList = '/' :: ("api/v1/trackers/".toList ++ id.toList) := by
  have happend : (trackerPath id).toList = "/api/v1/trackers/".toList ++ id.toList :=
    String.toList_append
  exact happend.trans rfl

theorem trackerPath_ne_root (id : String) : trackerPath id ≠ "/" := by
  rw [← String.toList_inj.ne, toList_trackerPath]
  exact fun h => List.cons_ne_nil _ _ (List.cons_inj_right _ |>.1 h)

theorem utf8ByteSize_trackerPath (id : String) :
    (trackerPath id).utf8ByteSize = 17 + id.utf8ByteSize := String.utf8ByteSize_append

theorem segments_trackerPath (id : String) : Route.segments (trackerPath id).toList =
    "".toList :: "api".toList :: "v1".toList :: "trackers".toList :: Route.segments id.toList := by
  rw [toList_trackerPath]
  rfl

/-- The paths of conversations are those of a segment that is not empty. -/
theorem ofPath?_eq_tracker : Route.ofPath? path = some (.tracker segment) ↔
    path = trackerPath segment ∧ segment ≠ "" ∧ '/' ∉ segment.toList := by
  constructor
  · intro h
    rw [Route.ofPath?] at h
    split at h
    · cases h
    · cases h
    · rename_i segment' hmap
      split at h
      · cases h
      · rename_i hne
        cases h
        have hsegments : Route.segments path.toList =
            ["".toList, "api".toList, "v1".toList, "trackers".toList, segment.toList] := by
          simpa [List.map_map, Function.comp_def] using congrArg (List.map String.toList) hmap
        -- The path is its segments joined again, so that they determine it.
        have hjoined : ['/'].intercalate (Route.segments path.toList) = path.toList := by
          rw [Route.segments_eq_splitOn]
          exact List.intercalate_splitOn '/'
        have hpath : path = trackerPath segment := by
          rw [← String.toList_inj, toList_trackerPath, ← hjoined, hsegments]
          simp only [List.intercalate_cons_cons, List.intercalate_singleton]
          rfl
        rw [hpath, segments_trackerPath] at hsegments
        simp only [List.cons_inj_right] at hsegments
        exact ⟨hpath, hne, Route.segments_eq_singleton.1 hsegments⟩
    · cases h
  · rintro ⟨rfl, hne, hslash⟩
    rw [Route.ofPath?, segments_trackerPath, Route.segments_eq_singleton.2 hslash]
    simp [hne]

/-- A path that is not the root consists of characters that may stand in one, and its target begins
with it. -/
theorem exists_of_pathOf? (h : pathOf? cs = some path) (hroot : path ≠ "/") :
    ∃ rest, cs = path.toList ++ rest ∧ ∀ c ∈ path.toList, isPathChar c = true := by
  unfold pathOf? at h
  obtain ⟨hlegal, hpath⟩ := Option.ite_none_right_eq_some.1 h
  rw [Bool.and_eq_true] at hlegal
  rw [Option.some_inj] at hpath
  split at hpath
  · exact (hroot hpath.symm).elim
  · subst hpath
    rw [String.toList_ofList]
    exact ⟨_, List.takeWhile_append_dropWhile.symm, List.all_eq_true.1 hlegal.1⟩

theorem afterScheme?_isSuffix {rest : List Char} (h : afterScheme? cs = some rest) :
    rest <:+ cs := by
  unfold afterScheme? at h
  dsimp only at h
  split at h
  · rename_i hdrop
    obtain ⟨-, hrest⟩ := Option.ite_none_right_eq_some.1 h
    cases hrest
    have hcolon : [':', '/', '/'] ++ rest <:+ cs := by
      rw [List.cons_append, List.cons_append, List.cons_append, List.nil_append, ← hdrop]
      exact List.drop_suffix _ cs
    exact (List.suffix_append _ _).trans hcolon
  · cases h

theorem of_targetPath? {target : String} (h : targetPath? target = some path) (hroot : path ≠ "/") :
    target.utf8ByteSize ≤ 65534 ∧ path.toList <:+: target.toList := by
  rw [targetPath?] at h
  obtain ⟨hfits, h⟩ := Option.ite_none_left_eq_some.1 h
  refine ⟨Nat.le_of_not_lt hfits, ?_⟩
  split at h
  · cases h
  · rename_i hstar
    cases h
    rw [hstar]
    exact List.infix_rfl
  · -- A target that begins with a slash is the path, up to its query.
    rename_i cs hslash
    obtain ⟨rest, hrest, -⟩ := exists_of_pathOf? h hroot
    rw [hslash, hrest]
    exact (List.prefix_append _ _).isInfix
  · split at h
    · -- With a scheme the path begins behind the authority.
      rename_i rest hscheme
      dsimp only at h
      obtain ⟨-, h⟩ := Option.ite_none_left_eq_some.1 h
      obtain ⟨more, hmore, -⟩ := exists_of_pathOf? h hroot
      have hdrop : path.toList ++ more <:+ rest := hmore ▸ List.drop_suffix _ rest
      exact (List.prefix_append _ _).isInfix.trans
        (hdrop.trans (afterScheme?_isSuffix hscheme)).isInfix
    · obtain ⟨-, hempty⟩ := Option.ite_none_right_eq_some.1 h
      cases hempty
      exact List.nil_infix

theorem utf8ByteSize_le_of_infix {s t : String} (h : s.toList <:+: t.toList) :
    s.utf8ByteSize ≤ t.utf8ByteSize := by
  obtain ⟨before, after, happend⟩ := h
  have ht : t = String.ofList before ++ s ++ String.ofList after := by
    rw [← String.toList_inj, ← happend]
    simp
  rw [ht, String.utf8ByteSize_append, String.utf8ByteSize_append]
  omega

/-- The characters that end a path may not stand in it. -/
theorem not_stop_of_isPathChar {c : Char} (h : isPathChar c = true) :
    (!(decide (c = '?') || decide (c = '#'))) = true := by
  have hquestion : isPathChar '?' = false := by
    rw [isPathChar, String.contains_char_eq]
    decide
  have hnumber : isPathChar '#' = false := by
    rw [isPathChar, String.contains_char_eq]
    decide
  have hne : ¬(c = '?' ∨ c = '#') := by
    rintro (rfl | rfl)
    · cases hquestion.symm.trans h
    · cases hnumber.symm.trans h
  simpa using hne

/-- What consists of such characters is a path as a whole. -/
theorem pathOf?_eq_self (h : ∀ c ∈ '/' :: cs, isPathChar c = true) :
    pathOf? ('/' :: cs) = some (String.ofList ('/' :: cs)) := by
  have hwhole : ('/' :: cs).takeWhile (fun c => !(decide (c = '?') || decide (c = '#'))) =
      '/' :: cs := List.takeWhile_eq_self_iff.2 fun c hc => not_stop_of_isPathChar (h c hc)
  unfold pathOf?
  dsimp only
  rw [hwhole, List.drop_length, List.isEmpty_cons, if_neg Bool.false_ne_true, if_pos]
  rw [Bool.and_eq_true]
  exact ⟨List.all_eq_true.2 h, rfl⟩

/-! ### Links -/

/-- Where a target leads to, if it is the conversation of a sender. -/
def leadsTo? (target : String) : Option String := do
  let path ← targetPath? target
  match ← Route.ofPath? path with
  | .tracker segment => Percent.decode? segment
  | _ => none

/-- The ids that mean themselves in a link: their characters may stand in a segment of a path, and
they hold no escape. -/
structure Linkable (id : String) : Prop where
  chars : ∀ c ∈ id.toList, isPathChar c = true ∧ c ≠ '/'
  plain : Percent.Plain (Utf8.encode id)

theorem leadsTo?_eq_some {target : String} : leadsTo? target = some id ↔
    ∃ segment, targetPath? target = some (trackerPath segment) ∧ segment ≠ "" ∧
      '/' ∉ segment.toList ∧ Percent.decode? segment = some id := by
  rw [leadsTo?]
  simp only [Option.bind_eq_bind, Option.bind_eq_some_iff]
  constructor
  · rintro ⟨path, hpath, route, hroute, hid⟩
    cases route with
    | tracker segment =>
      obtain ⟨rfl, hne, hslash⟩ := ofPath?_eq_tracker.1 hroute
      exact ⟨segment, hpath, hne, hslash, hid⟩
    | health | sweep => cases hid
  · rintro ⟨segment, hpath, hne, hslash, hid⟩
    exact ⟨_, hpath, _, ofPath?_eq_tracker.2 ⟨rfl, hne, hslash⟩, hid⟩

theorem targetPath?_trackerPath (id : String) : targetPath? (trackerPath id) =
    if 65534 < (trackerPath id).utf8ByteSize then none
    else pathOf? ('/' :: ("api/v1/trackers/".toList ++ id.toList)) := by
  rw [targetPath?, toList_trackerPath]
  rfl

theorem all_isPathChar_base : ('/' :: "api/v1/trackers/".toList).all isPathChar = true := by
  decide

/-- **A link leads to its sender just if the id of the sender means itself**, as long as the link is
not too long for a target. -/
theorem leadsTo?_trackerPath (hne : id ≠ "") (hfits : (trackerPath id).utf8ByteSize ≤ 65534) :
    leadsTo? (trackerPath id) = some id ↔ Linkable id := by
  rw [leadsTo?_eq_some, targetPath?_trackerPath, if_neg (Nat.not_lt.2 hfits)]
  constructor
  · rintro ⟨segment, hpath, -, hslash, hdecode⟩
    obtain ⟨rest, hrest, hchars⟩ := exists_of_pathOf? hpath (trackerPath_ne_root segment)
    rw [toList_trackerPath] at hrest hchars
    have hid : id = segment ++ String.ofList rest := by
      rw [List.cons_append, List.cons_inj_right, List.append_assoc, List.append_cancel_left_eq]
        at hrest
      rw [← String.toList_inj, String.toList_append, String.toList_ofList, hrest]
    -- Decoding does not lengthen, so nothing of the id has been cut off.
    have hwhole : String.ofList rest = "" := by
      have hsize := Percent.utf8ByteSize_le_of_decode? hdecode
      rw [hid, String.utf8ByteSize_append] at hsize
      exact String.utf8ByteSize_eq_zero_iff.1 (by omega)
    rw [hwhole, String.append_empty] at hid
    subst hid
    exact {
      chars := fun c hc => ⟨hchars c (List.mem_cons_of_mem '/' (List.mem_append_right _ hc)),
        fun h => hslash (h ▸ hc)⟩
      plain := Percent.decodeBytes_eq_self.1 (Utf8.decode?_eq_some.1 hdecode) }
  · intro h
    have hchars : ∀ c ∈ '/' :: ("api/v1/trackers/".toList ++ id.toList), isPathChar c = true := by
      rw [← List.cons_append]
      intro c hc
      rcases List.mem_append.1 hc with hc | hc
      · exact List.all_eq_true.1 all_isPathChar_base c hc
      · exact (h.chars c hc).1
    refine ⟨id, ?_, hne, fun hslash => (h.chars '/' hslash).2 rfl, ?_⟩
    · rw [pathOf?_eq_self hchars, ← toList_trackerPath, String.ofList_toList]
    · exact Utf8.decode?_eq_some.2 (Percent.decodeBytes_eq_self.2 h.plain)

/-- The link of a conversation is no longer than the target that asks for it. -/
theorem fits_trackerPath {target : String} (htarget : targetPath? target = some (trackerPath segment))
    (hid : Percent.decode? segment = some id) : (trackerPath id).utf8ByteSize ≤ 65534 := by
  obtain ⟨hfits, hinfix⟩ := of_targetPath? htarget (trackerPath_ne_root segment)
  have hpath := utf8ByteSize_le_of_infix hinfix
  have hdecode := Percent.utf8ByteSize_le_of_decode? hid
  rw [utf8ByteSize_trackerPath] at hpath ⊢
  omega

/-- The path that a response links to as its own. -/
def Response.self? (r : Response) : Option String :=
  match r.content with
  | .envelope e => e.self
  | _ => none

theorem targetPath?_of_ofParts? {method target : String} {headers : List (String × String)}
    {body : List UInt8} {r : Request} (h : Request.ofParts? method target headers body = some r) :
    targetPath? target = some r.path := by
  rw [Request.ofParts?, Option.bind_eq_bind, Option.bind_eq_some_iff] at h
  obtain ⟨path, hpath, h⟩ := h
  obtain ⟨-, hr⟩ := Option.ite_none_right_eq_some.1 h
  cases hr
  exact hpath

theorem of_ofParts? {method target : String} {headers : List (String × String)} {body : List UInt8}
    (htarget : targetPath? target = some path) (hmethod : isToken method = true)
    (hheaders : headers.all (fun h => isToken h.1 && isHeaderValue h.2) = true) :
    Request.ofParts? method target headers body =
      some ⟨method, path, headers.map fun h => (h.1.map Char.toLower, h.2), body⟩ := by
  rw [Request.ofParts?, htarget, hmethod, hheaders]
  rfl

theorem isToken_of_mem_methods {method : String} (h : method ∈ (Route.tracker segment).methods) :
    isToken method = true := by
  have hall : ∀ method ∈ ["GET", "HEAD", "PUT"], isToken method = true := by
    unfold isToken
    rw [Service.isTokenChar_eq]
    decide
  exact hall method h

end Http

namespace Service

open Http

variable {s : Service} {network : Network} {now : Float} {id segment : String} {r : Request}

/-- What is answered about the conversation of a sender: it is stored by one method, and told by the
others. -/
def conversation (s : Service) (network : Network) (id : String) (r : Request) :
    Performed (Awaited Response) :=
  if r.method = "PUT" then s.putTracker network id r else s.getTracker network id

/-- The response without a body that is not asked for. -/
def trim (method : String) (response : Response) : Response :=
  { response with withBody := method ≠ "HEAD" }

/-- All that asks for a target with a method that conversations know is answered about the
conversation of a sender. -/
def Reaches (target id : String) : Prop :=
  ∀ method ∈ (Route.tracker id).methods, ∀ (headers : List (String × String)) (body : List UInt8),
    headers.all (fun h => isToken h.1 && isHeaderValue h.2) = true →
      ∃ r, Request.ofParts? method target headers body = some r ∧
        ∀ (s : Service) (network : Network) (now : Float),
          s.respond network now r = (s.conversation network id r).map (.map (trim method))

theorem respond_tracker (hroute : Route.ofPath? r.path = some (.tracker segment))
    (hmethod : r.method ∈ (Route.tracker segment).methods) :
    s.respond network now r =
      (s.dispatch network now r (.tracker segment)).map (.map (trim r.method)) := by
  have hoptions : r.method ≠ "OPTIONS" := by
    intro h
    rw [h] at hmethod
    exact absurd hmethod (show "OPTIONS" ∉ ["GET", "HEAD", "PUT"] by decide)
  rw [respond, if_neg hoptions, hroute]
  dsimp only
  rw [if_neg (by simpa using hmethod)]
  rfl

theorem dispatch_tracker (hid : Percent.decode? segment = some id) :
    s.dispatch network now r (.tracker segment) = s.conversation network id r := by
  rw [dispatch, hid]
  rfl

theorem reaches_of_leadsTo? {target : String} (h : leadsTo? target = some id) :
    Reaches target id := by
  obtain ⟨segment, htarget, hne, hslash, hid⟩ := leadsTo?_eq_some.1 h
  intro method hmethod headers body hheaders
  refine ⟨_, of_ofParts? htarget (isToken_of_mem_methods hmethod) hheaders, fun s network now => ?_⟩
  rw [respond_tracker (ofPath?_eq_tracker.2 ⟨rfl, hne, hslash⟩) hmethod, dispatch_tracker hid]

/-- An answer of success about a conversation links to its sender, be it given at once or later. -/
theorem self?_conversation {response : Response}
    (h : (s.conversation network id r).result.CanBe response) (hok : response.status = 200) :
    response.self? = some (trackerPath id) := by
  rw [conversation] at h
  split at h
  · rw [putTracker] at h
    split at h
    · rename_i refused hrefused
      have hstatus := refuses_of_readRecord hrefused
      obtain rfl : refused = response := h
      omega
    · split at h
      · obtain rfl := h
        cases hok
      · -- The link is part of the answer now, whenever the events come.
        obtain ⟨events, -, rfl⟩ := Awaited.canBe_map.1 h
        rfl
  · obtain ⟨tracker?, -, rfl⟩ := Awaited.canBe_map.1 h
    cases tracker? with
    | some _ => rfl
    | none => cases hok

theorem self?_respond {response : Response} (hroute : Route.ofPath? r.path = some (.tracker segment))
    (hmethod : r.method ∈ (Route.tracker segment).methods) (hid : Percent.decode? segment = some id)
    (h : (s.respond network now r).result.CanBe response) (hok : response.status = 200) :
    response.self? = some (trackerPath id) := by
  rw [respond_tracker hroute hmethod, dispatch_tracker hid] at h
  obtain ⟨untrimmed, hgiven, rfl⟩ := Awaited.canBe_map.1 h
  -- Neither the status nor the link of a response is trimmed.
  have hself := self?_conversation hgiven (show untrimmed.status = 200 from hok)
  exact hself

theorem respond_of_no_route (hroute : Route.ofPath? r.path = none) (hmethod : r.method ≠ "OPTIONS") :
    (s.respond network now r).result = .now { status := 404 } := by
  rw [respond, if_neg hmethod, hroute]

/-- A PUT whose body names nobody is answered with success. -/
theorem status_put {record : Record} {response : Response}
    (hroute : Route.ofPath? r.path = some (.tracker segment)) (hput : r.method = "PUT")
    (hid : Percent.decode? segment = some id) (hread : readRecord r = .ok record)
    (hunnamed : record.senderId = "") (h : (s.respond network now r).result.CanBe response) :
    response.status = 200 := by
  have hmethod : r.method ∈ (Route.tracker segment).methods :=
    hput ▸ show "PUT" ∈ ["GET", "HEAD", "PUT"] by decide
  rw [respond_tracker hroute hmethod, dispatch_tracker hid, conversation, if_pos hput,
    putTracker_of_unnamed hread hunnamed] at h
  obtain ⟨_, hgiven, rfl⟩ := Awaited.canBe_map.1 h
  obtain ⟨events, -, rfl⟩ := Awaited.canBe_map.1 hgiven
  rfl

theorem ofParts?_put {path : String} (htarget : targetPath? path = some path) (body : List UInt8) :
    Request.ofParts? "PUT" path [("content-type", "application/json")] body =
      some ⟨"PUT", path, [("content-type", "application/json")], body⟩ := by
  have hheaders : [("content-type", "application/json")].all
      (fun h => isToken h.1 && isHeaderValue h.2) = true := by
    unfold isToken
    rw [isTokenChar_eq]
    decide +kernel
  have hnames : [("content-type", "application/json")].map
      (fun h => (h.1.map Char.toLower, h.2)) = [("content-type", "application/json")] := by
    decide +kernel
  have hmethod : isToken "PUT" = true :=
    isToken_of_mem_methods (show "PUT" ∈ (Route.tracker path).methods from
      show "PUT" ∈ ["GET", "HEAD", "PUT"] by decide)
  rw [of_ofParts? htarget hmethod hheaders, hnames]

/-- A service with an empty cache and nobody who listens. -/
def plainService : Service where
  engine := Engine.plainEngine
  client := ⟨"http://store.test/graphql", none, 30⟩
  bus := { capacity := busCapacity }

theorem idle_plainService : plainService.Idle := ⟨EngineState.sound_empty, rfl⟩

/-- **Answers link to the conversation that they are about, and the link leads back just if the id of
the sender means itself in a path.**  It makes no difference whether a request is answered at once or
has to wait for its turn. -/
theorem self_leads_back (s : Service) (network : Network) (now : Float) {method target : String}
    {headers : List (String × String)} {body : List UInt8} {response : Response}
    (hlegal : Request.ofParts? method target headers body = some r)
    (hroute : Route.ofPath? r.path = some (.tracker segment))
    (hmethod : r.method ∈ (Route.tracker segment).methods)
    (hanswer : (s.respond network now r).result.CanBe response) (hok : response.status = 200) :
    ∃ id, Percent.decode? segment = some id ∧
      response.self? = some (trackerPath id) ∧
      (leadsTo? (trackerPath id) = some id ↔ Linkable id) ∧
      (Linkable id → Reaches (trackerPath id) id) := by
  obtain ⟨hpath, hne, -⟩ := ofPath?_eq_tracker.1 hroute
  -- Bytes that are not UTF-8 are refused, and the refusal is no success.
  cases hid : Percent.decode? segment with
  | none =>
    rw [respond_tracker hroute hmethod, dispatch, hid] at hanswer
    have hrefused : trim r.method (.refusal 400 "Invalid URL: the path is not UTF-8") = response :=
      hanswer
    subst hrefused
    cases hok
  | some id =>
    have hback : leadsTo? (trackerPath id) = some id ↔ Linkable id :=
      leadsTo?_trackerPath (Percent.ne_empty_of_decode? hid hne)
        (fits_trackerPath (hpath ▸ targetPath?_of_ofParts? hlegal) hid)
    exact ⟨id, rfl, self?_respond hroute hmethod hid hanswer hok, hback,
      fun h => reaches_of_leadsTo? (hback.2 h)⟩

/-- An umlaut may stand in a path as it is. -/
theorem self_leads_back_umlaut :
    let put : Request := ⟨"PUT", "/api/v1/trackers/J%C3%BCrgen",
      [("content-type", "application/json")], Utf8.encode "\x7b\x7d"⟩
    (∃ response, (plainService.respond (fun _ => .unreachable) 0 put).result = .now response ∧
      response.self? = some "/api/v1/trackers/Jürgen") ∧
      Reaches "/api/v1/trackers/Jürgen" "Jürgen" := by
  intro put
  have hroute : Route.ofPath? put.path = some (.tracker "J%C3%BCrgen") := by
    decide +kernel
  have hdecoded : Percent.decode? "J%C3%BCrgen" = some "Jürgen" :=
    Utf8.decode?_eq_some.2 (by decide +kernel)
  obtain ⟨record, hread, hunnamed⟩ := exists_of_readRecord put.path put.body (by decide +kernel)
    (show _ = some "" by decide +kernel)
  obtain ⟨⟨response, hresponse⟩, -⟩ := idle_plainService.respond (fun _ => .unreachable) 0 put
  have hanswer : (plainService.respond (fun _ => .unreachable) 0 put).result.CanBe response := by
    rw [hresponse]
    rfl
  obtain ⟨id, hid, hself, -, hreaches⟩ := self_leads_back plainService (fun _ => .unreachable) 0
    (ofParts?_put (show targetPath? put.path = some put.path by decide +kernel) put.body) hroute
    (show "PUT" ∈ ["GET", "HEAD", "PUT"] by decide) hanswer
    (status_put hroute rfl hdecoded hread hunnamed hanswer)
  cases hdecoded.symm.trans hid
  have hchars : "Jürgen".toList.all (fun c => isPathChar c && c ≠ '/') = true := by decide
  have hplain : Percent.Plain (Utf8.encode "Jürgen") :=
    Percent.decodeBytes_eq_self.1 (by decide +kernel)
  exact ⟨⟨response, hresponse, hself⟩,
    hreaches ⟨fun c hc => by simpa using List.all_eq_true.1 hchars c hc, hplain⟩⟩

/-- A slash ends the segment that the link names. -/
theorem self_lost_behind_slash :
    let put (path : String) : Request :=
      ⟨"PUT", path, [("content-type", "application/json")], Utf8.encode "\x7b\"events\":[]\x7d"⟩
    let answer :=
      (plainService.handle (fun _ => .unreachable) 0 (put "/api/v1/trackers/a%2Fb")).result
    answer.status = 200 ∧ answer.self? = some "/api/v1/trackers/a/b" ∧
      (∀ path ∈ ["/api/v1/trackers/a%2Fb", "/api/v1/trackers/a/b"],
        Request.ofParts? "PUT" path (put path).headers (put path).body = some (put path)) ∧
      ∀ (s : Service) (network : Network) (now : Float),
        (s.handle network now (put "/api/v1/trackers/a/b")).result.status = 404 := by
  intro put answer
  have hroute : Route.ofPath? (put "/api/v1/trackers/a%2Fb").path = some (.tracker "a%2Fb") := by
    decide +kernel
  have hdecoded : Percent.decode? "a%2Fb" = some "a/b" := Utf8.decode?_eq_some.2 (by decide +kernel)
  obtain ⟨record, hread, hunnamed⟩ := exists_of_readRecord "/api/v1/trackers/a%2Fb"
    (Utf8.encode "\x7b\"events\":[]\x7d") (by decide +kernel) (show _ = some "" by decide +kernel)
  obtain ⟨hresponse, -⟩ :=
    idle_plainService.handle (fun _ => .unreachable) 0 (put "/api/v1/trackers/a%2Fb")
  have hanswer : (plainService.respond (fun _ => .unreachable) 0
      (put "/api/v1/trackers/a%2Fb")).result.CanBe answer := by
    rw [hresponse]
    rfl
  have hok : answer.status = 200 := status_put hroute rfl hdecoded hread hunnamed hanswer
  have htargets : ∀ path ∈ ["/api/v1/trackers/a%2Fb", "/api/v1/trackers/a/b"],
      targetPath? path = some path := by
    decide +kernel
  refine ⟨hok, self?_respond hroute (by decide) hdecoded hanswer hok,
    fun path hpath => ofParts?_put (htargets path hpath) _, fun s network now => ?_⟩
  have hlost : (s.respond network now (put "/api/v1/trackers/a/b")).result =
      .now { status := 404 } :=
    respond_of_no_route (by decide +kernel) (show "PUT" ≠ "OPTIONS" by decide)
  rw [handle, Performed.map, hlost]
  rfl

end Service

end DialogueStore
