/-
What replacing leaves, and what it leaves alone.

Replacing goes through a text once and puts a tag for each match it comes across.
That no match is left is not a matter of course: a tag changes what stands next to a
text, and a shorter match may begin where a longer one has been.  It is so for
standalone patterns (`Pattern.freeIn_replaceAll`), because all they ask of the text
around them is that it is no word, and tags are no words.  For the same reason
replacing one pattern makes no match of another one (`Pattern.FreeIn.replaceAll`).

So one pass of all rules is complete (`Privacy.anonymize_free`), in whatever order they
come (`Privacy.free_of_perm`), and texts without matches are the ones that stay as they
are (`Privacy.anonymize_eq_self_iff`).  For the four patterns by their names this is
`Privacy.anonymizeText_complete`.

Design notes: the proofs go along the derivation that a text is what replacing leaves
(`Pattern.Replaces`).  It does not say which of the matches from a place is taken, and
no proof here needs to know.
-/
import Mathlib.Data.List.Induction
import DialogueStore.Proofs.Standalone

namespace DialogueStore

open Anchor (headIs)

open Privacy (Standalone)

namespace Pattern

variable {p q : Pattern} {s t u : Place} {tag text out w b x : List Char}

/-! ### Replacing as a relation -/

/-- What is left of the text after a place when matches of a pattern are replaced by a tag. -/
inductive Replaces (p : Pattern) (tag : List Char) : Place → List Char → Prop
  | done (before : List Char) : Replaces p tag ⟨before, []⟩ []
  | hit {s t : Place} {out : List Char} (hm : p.Matches s t) (h : Replaces p tag t out) :
    Replaces p tag s (tag ++ out)
  | skip {before rest out : List Char} {c : Char}
    (hfree : ∀ t, ¬ p.Matches ⟨before, c :: rest⟩ t)
    (h : Replaces p tag ⟨c :: before, rest⟩ out) : Replaces p tag ⟨before, c :: rest⟩ (c :: out)

/-- A match of a standalone pattern reads on. -/
theorem length_lt_of_matches (hp : Standalone p) (h : p.Matches s t) :
    t.after.length < s.after.length := by
  obtain ⟨c, w, -, hw⟩ := hp.opens h
  rw [hw.length_eq, List.length_cons]
  omega

theorem replaces_replaceFrom (hp : Standalone p) (tag : List Char) (s : Place) :
    Replaces p tag s (p.replaceFrom tag s) := by
  -- By induction on the length of what is left, since a match skips any number of characters.
  obtain ⟨n, hn⟩ : ∃ n, s.after.length = n := ⟨_, rfl⟩
  induction n using Nat.strongRecOn generalizing s with
  | ind n ih =>
    subst hn
    obtain ⟨before, _ | ⟨c, rest⟩⟩ := s
    · rw [replaceFrom]
      exact .done before
    · cases hmatch : p.match? ⟨before, c :: rest⟩ with
      | none =>
        rw [replaceFrom, hmatch]
        exact .skip (match?_eq_none_iff.1 hmatch) (ih _ (Nat.lt_succ_self _) _ rfl)
      | some t =>
        have hm := matches_of_match? hmatch
        have hlt := length_lt_of_matches hp hm
        rw [replaceFrom, hmatch]
        simp only [hlt, if_true]
        exact .hit hm (ih _ hlt _ rfl)

/-! ### Tags -/

/-- A tag begins with a sign that no rule reads, no sensitive piece begins inside it, and it does
not end in a word. -/
structure IsTag (tag : List Char) : Prop where
  sign : ∃ body, tag = '<' :: body
  inert : ∀ c ∈ tag, Privacy.begins c = false
  ends : headIs Text.isWord tag.reverse = false

/-- No sensitive piece begins inside a tag. -/
theorem IsTag.exists_of_append (htag : IsTag tag) {c : Char} (hc : Privacy.begins c = true)
    (h : tag ++ out = x ++ c :: w) : ∃ x', x = tag ++ x' ∧ out = x' ++ c :: w := by
  rcases List.append_eq_append_iff.1 h with ⟨x', rfl, hout⟩ | ⟨y, rfl, hy⟩
  · exact ⟨x', rfl, hout⟩
  · cases y with
    | nil => exact ⟨[], by simp, by simpa using hy.symm⟩
    | cons d y =>
      obtain ⟨rfl, -⟩ := List.cons.inj hy
      have hinert := htag.inert c (by simp)
      rw [hc] at hinert
      cases hinert

/-- What is left without a tag has been there before. -/
theorem Replaces.of_untagged (htag : IsTag tag) (hw : '<' ∉ w)
    (h : Replaces p tag s (w ++ out)) :
    ∃ rest, s.after = w ++ rest ∧ Replaces p tag ⟨w.reverse ++ s.before, rest⟩ out := by
  induction w generalizing s with
  | nil => exact ⟨s.after, rfl, h⟩
  | cons c w ih =>
    obtain ⟨hc, hw⟩ := not_or.1 (fun h => hw (List.mem_cons.2 h))
    generalize hout : c :: w ++ out = left at h
    cases h with
    | done before => cases hout
    | hit hm h =>
      obtain ⟨body, rfl⟩ := htag.sign
      -- A tag begins with a sign that is not in `w`, so no match was replaced here.
      exact absurd (List.cons.inj hout).1.symm hc
    | skip hfree h =>
      obtain ⟨rfl, rfl⟩ := List.cons.inj hout
      obtain ⟨rest, rfl, hrest⟩ := ih hw h
      refine ⟨rest, rfl, ?_⟩
      rwa [List.reverse_cons, List.append_assoc]

/-- Where a word has just ended, it has ended before replacing, too. -/
theorem Replaces.headIs_after (hp : Standalone p) (h : Replaces p tag s out)
    (hbefore : headIs Text.isWord s.before = true) (hout : headIs Text.isWord out = false) :
    headIs Text.isWord s.after = false := by
  cases h with
  | done before => rfl
  | hit hm h => exact (hp.starts hm).resolve_left (by rw [hbefore]; decide)
  | skip hfree h => exact hout

/-! ### Matches in what is left -/

/-- One text stands before a place as good as what does: either both end in a word or both do not,
or no word begins at the place anyway. -/
def Beside (b : List Char) (s : Place) : Prop :=
  headIs Text.isWord b = headIs Text.isWord s.before ∨
    headIs Text.isWord b = false ∧ headIs Text.isWord s.after = false

/-- A match in what is left, right where nothing has been replaced, has been a match before. -/
theorem Replaces.matches_of_skip (hp : Standalone p) (hq : Standalone q) (htag : IsTag tag)
    {c : Char} (h : Replaces p tag s (c :: out)) (hc : s.after.head? = some c) (hb : Beside b s)
    (hm : q.Matches ⟨b, c :: out⟩ t) : ∃ u, q.Matches s u := by
  obtain ⟨d, w, -, hread⟩ := hq.opens hm
  obtain ⟨hword, hstop⟩ := hq.ends hm
  obtain ⟨before, after⟩ := t
  obtain ⟨rfl, rfl⟩ : c = d ∧ out = w ++ after := List.cons.inj hread.after
  obtain rfl : before = (c :: w).reverse ++ b := hread.before
  -- The match reads no tag, so that what it reads has been there before.
  obtain ⟨rest, hafter, hrest⟩ := h.of_untagged (w := c :: w) htag (hm.not_mem hq.untagged hread)
  have hrestword : headIs Text.isWord rest = false := by
    refine hrest.headIs_after hp ?_ hstop
    rw [← hword]
    exact headIs_append fun hnil => absurd hnil (by simp)
  have hfirst : headIs Text.isWord s.before = false ∨ Text.isWord c = false := by
    have hstart : headIs Text.isWord b = false ∨ Text.isWord c = false := hq.starts hm
    rcases hb with hb | ⟨-, hb⟩
    · rwa [← hb]
    · rw [hafter] at hb
      exact .inr hb
  obtain ⟨before', after'⟩ := s
  obtain rfl : after' = c :: w ++ rest := hafter
  exact ⟨_, hq.anywhere (w := c :: w) hm hfirst hrestword⟩

/-- **Each match in what is left has been a match before**, at a place at which there was nothing
to replace. -/
theorem Replaces.exists_matches (hp : Standalone p) (hq : Standalone q) (htag : IsTag tag)
    (h : Replaces p tag s out) (hb : Beside b s) (hread : (⟨b, out⟩ : Place).Reads x u)
    (hm : q.Matches u t) :
    ∃ w v, s.Reads w v ∧ (∃ t, q.Matches v t) ∧ ∀ t, ¬ p.Matches v t := by
  induction h generalizing b x with
  | done before =>
    obtain ⟨c, w, -, hw⟩ := hq.opens hm
    have hnil : u.after = [] := hread.after_eq_nil rfl
    rw [hw.after] at hnil
    cases hnil
  | @hit s t' out hpm h ih =>
    obtain ⟨c, w, hc, hw⟩ := hq.opens hm
    obtain ⟨v, hv⟩ := hpm.reads
    have hsplit : tag ++ out = x ++ c :: (w ++ t.after) := by
      rw [← List.cons_append, ← hw.after]
      exact hread.after
    obtain ⟨x', rfl, hout⟩ := htag.exists_of_append hc hsplit
    -- Neither where the tag ends nor where the replaced match ended does a word go on.
    have hb' : Beside (tag.reverse ++ b) t' := by
      obtain ⟨body, rfl⟩ := htag.sign
      refine .inr ⟨?_, (hp.ends hpm).2⟩
      rw [← htag.ends, ← List.append_nil (List.reverse ('<' :: body)), List.append_assoc]
      exact headIs_append fun hnil => absurd hnil (by simp)
    have hread' : (⟨tag.reverse ++ b, out⟩ : Place).Reads x' u := by
      refine ⟨?_, ?_⟩
      · rw [hw.after]
        exact hout
      · rw [hread.before, List.reverse_append, List.append_assoc]
    obtain ⟨w', v', hw', hv'⟩ := ih hb' hread'
    exact ⟨v ++ w', v', hv.trans hw', hv'⟩
  | @skip before rest out c hfree h ih =>
    -- Here a character was kept, and the match begins with it or behind it.
    cases x with
    | nil =>
      obtain rfl : u = ⟨b, c :: out⟩ := hread.eq_of_length (by rw [hread.length_eq]; simp)
      exact ⟨[], _, .refl _, (Replaces.skip hfree h).matches_of_skip hp hq htag rfl hb hm, hfree⟩
    | cons d x =>
      obtain ⟨rfl, hafter⟩ := List.cons.inj hread.after
      have hread' : (⟨c :: b, out⟩ : Place).Reads x u := by
        refine ⟨hafter, ?_⟩
        rw [hread.before, List.reverse_cons, List.append_assoc]
        rfl
      obtain ⟨w, v, hw, hv⟩ := ih (b := c :: b) (.inl rfl) hread'
      have hc : (⟨before, c :: rest⟩ : Place).Reads [c] ⟨c :: before, rest⟩ := ⟨rfl, rfl⟩
      exact ⟨c :: w, v, hc.trans hw, hv⟩

/-! ### Texts without a match -/

/-- A text has no match of a pattern. -/
def FreeIn (p : Pattern) (text : List Char) : Prop :=
  ∀ ⦃w s t⦄, (Place.start text).Reads w s → ¬ p.Matches s t

/-- **Replacing a standalone pattern leaves no match of it.** -/
theorem freeIn_replaceAll (hp : Standalone p) (htag : IsTag tag) (text : List Char) :
    p.FreeIn (p.replaceAll tag text) := by
  intro x u t hread hm
  obtain ⟨w, v, -, ⟨t, hv⟩, hfree⟩ :=
    (replaces_replaceFrom hp tag (.start text)).exists_matches hp hp htag (.inl rfl) hread hm
  exact hfree t hv

/-- **Replacing one standalone pattern makes no match of another one.** -/
theorem FreeIn.replaceAll (hp : Standalone p) (hq : Standalone q) (htag : IsTag tag)
    (h : q.FreeIn text) : q.FreeIn (p.replaceAll tag text) := by
  intro x u t hread hm
  obtain ⟨w, v, hw, ⟨t, hv⟩, -⟩ :=
    (replaces_replaceFrom hp tag (.start text)).exists_matches hp hq htag (.inl rfl) hread hm
  exact h hw hv

theorem Replaces.eq_of_free (h : Replaces p tag s out)
    (hfree : ∀ ⦃w u t⦄, s.Reads w u → ¬ p.Matches u t) : out = s.after := by
  induction h with
  | done before => rfl
  | hit hm h => exact absurd hm (hfree (.refl _))
  | @skip before rest out c hskip h ih =>
    have hc : (⟨before, c :: rest⟩ : Place).Reads [c] ⟨c :: before, rest⟩ := ⟨rfl, rfl⟩
    rw [ih fun w u t hread => hfree (hc.trans hread)]

/-- Where there is no match, nothing is replaced. -/
theorem FreeIn.replaceAll_eq (hp : Standalone p) (tag : List Char) (h : p.FreeIn text) :
    p.replaceAll tag text = text :=
  (replaces_replaceFrom hp tag (.start text)).eq_of_free h

end Pattern

/-! ### Anonymization -/

namespace Privacy

open Pattern (IsTag FreeIn)

theorem isTag_cons {body : List Char}
    (hinert : (('<' :: body).all fun c => !begins c) = true)
    (hends : headIs Text.isWord ('<' :: body).reverse = false) : IsTag ('<' :: body) := by
  refine ⟨⟨body, rfl⟩, fun c hc => ?_, hends⟩
  have hall := List.all_eq_true.1 hinert c hc
  simpa using hall

theorem isTag_rules : ∀ r ∈ rules, IsTag r.tag := by
  have hidentity : IsTag identityTag := isTag_cons (by decide +kernel) (by decide +kernel)
  have hip : IsTag ipTag := isTag_cons (by decide +kernel) (by decide +kernel)
  have hphone : IsTag phoneTag := isTag_cons (by decide +kernel) (by decide +kernel)
  simp only [rules, List.forall_mem_cons]
  exact ⟨hidentity, hip, hphone, hphone, List.forall_mem_nil _⟩

/-- Applying rules of this kind one after another leaves no match of any of them. -/
theorem free_foldl_apply {rs : List Rule} (hstandalone : ∀ r ∈ rs, Standalone r.pattern)
    (htag : ∀ r ∈ rs, IsTag r.tag) (text : List Char) :
    ∀ r ∈ rs, r.pattern.FreeIn (rs.foldl (fun t r => r.apply t) text) := by
  induction rs using List.reverseRecOn with
  | nil => exact List.forall_mem_nil _
  | append_singleton rs last ih =>
    simp only [List.forall_mem_append, List.forall_mem_singleton] at hstandalone htag ⊢
    rw [List.foldl_append]
    refine ⟨fun r hr => ?_, ?_⟩
    · exact (ih hstandalone.1 htag.1 r hr).replaceAll hstandalone.2 (hstandalone.1 r hr) htag.2
    · exact Pattern.freeIn_replaceAll hstandalone.2 htag.2 _

theorem foldl_apply_eq_self {rs : List Rule} {text : List Char}
    (hstandalone : ∀ r ∈ rs, Standalone r.pattern) (hfree : ∀ r ∈ rs, r.pattern.FreeIn text) :
    rs.foldl (fun t r => r.apply t) text = text := by
  induction rs with
  | nil => rfl
  | cons r rs ih =>
    rw [List.forall_mem_cons] at hstandalone hfree
    rw [List.foldl_cons, Rule.apply, hfree.1.replaceAll_eq hstandalone.1]
    exact ih hstandalone.2 hfree.2

/-- The order in which the rules are applied decides about the tags, and not about what is left. -/
theorem free_of_perm {order : List Rule} (horder : order.Perm rules) (text : List Char) :
    ∀ r ∈ rules, r.pattern.FreeIn (order.foldl (fun t r => r.apply t) text) := by
  have hmem : ∀ {r}, r ∈ order ↔ r ∈ rules := horder.mem_iff
  have hstandalone : ∀ r ∈ order, Standalone r.pattern := fun r hr =>
    standalone_rules r (hmem.1 hr)
  have htag : ∀ r ∈ order, IsTag r.tag := fun r hr => isTag_rules r (hmem.1 hr)
  intro r hr
  exact free_foldl_apply hstandalone htag text r (hmem.2 hr)

/-- **One pass of the rules is complete**: it leaves no match of any of them. -/
theorem anonymize_free (text : List Char) : ∀ r ∈ rules, r.pattern.FreeIn (anonymize text) :=
  free_of_perm (.refl rules) text

/-- **The texts that anonymization leaves as they are** are those without a match of any rule. -/
theorem anonymize_eq_self_iff {text : List Char} :
    anonymize text = text ↔ ∀ r ∈ rules, r.pattern.FreeIn text := by
  constructor
  · intro h
    rw [← h]
    exact anonymize_free text
  · exact foldl_apply_eq_self standalone_rules

theorem anonymizeText_eq_self_iff {text : String} :
    anonymizeText text = text ↔ ∀ r ∈ rules, r.pattern.FreeIn text.toList := by
  rw [← anonymize_eq_self_iff, anonymizeText]
  constructor
  · intro h
    rw [← String.toList_inj, String.toList_ofList] at h
    exact h
  · intro h
    rw [h, String.ofList_toList]

/-- Anonymized texts stay as they are. -/
theorem anonymizeText_idem (text : String) :
    anonymizeText (anonymizeText text) = anonymizeText text := by
  rw [anonymizeText_eq_self_iff, anonymizeText, String.toList_ofList]
  exact anonymize_free text.toList

/-- **Anonymization is complete**: no identity code, address or phone number matches in a text that
has been anonymized once, at any place of it, and so there is nothing to do a second time. -/
theorem anonymizeText_complete (text : String) :
    identityCode.FreeIn (anonymizeText text).toList ∧
    ipv4Address.FreeIn (anonymizeText text).toList ∧
    internationalPhone.FreeIn (anonymizeText text).toList ∧
    domesticPhone.FreeIn (anonymizeText text).toList ∧
    anonymizeText (anonymizeText text) = anonymizeText text := by
  have hfree := anonymize_free text.toList
  have htext : (anonymizeText text).toList = anonymize text.toList := String.toList_ofList
  simp only [rules, List.forall_mem_cons] at hfree
  obtain ⟨hidentity, hip, hinternational, hdomestic, -⟩ := hfree
  rw [htext]
  exact ⟨hidentity, hip, hinternational, hdomestic, anonymizeText_idem text⟩

end Privacy

end DialogueStore
