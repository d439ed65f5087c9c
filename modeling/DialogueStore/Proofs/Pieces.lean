/-
Anonymization as one substitution.

The rules are applied one after another, and each of them sees what the ones before it
have left.  Still all of it comes down to one substitution in the text as it was: the
text is cut into what is kept and the pieces that are replaced (`Cut`), each piece by the
tag of a rule that matches the piece by itself.

* `Privacy.Rule.cut` — how one rule cuts a text,
* `Privacy.cut` — how all rules do, each cutting what the ones before it have kept,
* `Privacy.describes_cut` — the cut gives back the text and what is left of it,
* `Pattern.spares_of_isTag` — no match reads any of a tag,
* `Privacy.identityCode_apart` — identity codes do not overlap, so that the first rule
  finds them all,
* `Privacy.anonymizeText_cut` — these together.

Design notes: a cut is refined where text is kept, and the tags between the kept parts
divide them.  So it is the theory of parts that says why a later rule does to a text with
tags what it does to its kept parts one by one.
-/
import DialogueStore.Proofs.Locality

namespace DialogueStore

open Anchor (headIs)

/-- Behind a part of what is read the rest is read. -/
theorem Place.Reads.of_append {s t u : Place} {v w : List Char} (h : s.Reads (v ++ w) u)
    (h' : s.Reads v t) : t.Reads w u := by
  refine ⟨?_, ?_⟩
  · have hafter := h'.after.symm.trans h.after
    rw [List.append_assoc] at hafter
    exact List.append_cancel_left hafter
  · rw [h.before, h'.before, List.reverse_append, List.append_assoc]

/-! ### Tags -/

namespace Pattern

variable {p : Pattern} {g : List Char}

/-- In the text that is made of `u`, `g` and `v`, no match reads a character of `g`. -/
def Spares (p : Pattern) (u g v : List Char) : Prop :=
  ∀ ⦃x w s t⦄, (Place.start (u ++ (g ++ v))).Reads x s → s.Reads w t → p.Matches s t →
    x.length + w.length ≤ u.length ∨ u.length + g.length ≤ x.length

/-- **No match reads any of a tag**, whatever stands around the tag. -/
theorem spares_of_isTag (hp : Privacy.Standalone p) (hg : IsTag g) (u v : List Char) :
    p.Spares u g v := by
  intro x w s t hx hw hm
  have htext : x ++ (w ++ t.after) = u ++ (g ++ v) := by
    rw [← hw.after]
    exact hx.after.symm
  rcases List.append_eq_append_iff.1 htext with ⟨y, rfl, hy⟩ | ⟨y, rfl, hy⟩
  · -- The match begins before the tag, and it cannot read the sign with which the tag begins.
    obtain ⟨body, rfl⟩ := hg.sign
    rcases List.append_eq_append_iff.1 hy with ⟨z, rfl, -⟩ | ⟨_ | ⟨d, z⟩, rfl, hz⟩
    · exact .inl (by simp only [List.length_append]; omega)
    · exact .inl (by simp)
    · obtain ⟨rfl, -⟩ := List.cons.inj hz
      exact absurd (by simp) (hm.not_mem hp.untagged hw)
  · -- The match begins where the tag does or later, and it does not begin inside the tag.
    obtain ⟨c, w', hc, hread⟩ := hp.opens hm
    obtain rfl : w = c :: w' := hw.unique hread
    obtain ⟨x', rfl, -⟩ := hg.exists_of_append hc hy
    exact .inr (by simp only [List.length_append]; omega)

end Pattern

namespace Privacy

open Pattern

/-! ### Cuts -/

/-- A text cut into what is kept and the pieces that rules replace. -/
inductive Cut
  | kept (text : List Char)
  /-- A text that is kept, a piece that a rule replaces, and what comes behind the piece. -/
  | replaced (text : List Char) (rule : Rule) (piece : List Char) (rest : Cut)

namespace Cut

/-- The text as it was. -/
def original : Cut → List Char
  | kept u => u
  | replaced u _ m rest => u ++ (m ++ rest.original)

/-- The text with the tags in it. -/
def result : Cut → List Char
  | kept u => u
  | replaced u r _ rest => u ++ (r.tag ++ rest.result)

/-- The pieces and what rule replaces them. -/
def pieces : Cut → List (Rule × List Char)
  | kept _ => []
  | replaced _ r m rest => (r, m) :: rest.pieces

/-- One more character is kept in front. -/
def keep (c : Char) : Cut → Cut
  | kept u => kept (c :: u)
  | replaced u r m rest => replaced (c :: u) r m rest

/-- A cut, a piece that a rule replaces, and another cut behind it. -/
def join : Cut → Rule → List Char → Cut → Cut
  | kept u, r, m, right => replaced u r m right
  | replaced u r' m' rest, r, m, right => replaced u r' m' (rest.join r m right)

/-- Cuts all that was kept. -/
def refine (f : List Char → Cut) : Cut → Cut
  | kept u => f u
  | replaced u r m rest => (f u).join r m (rest.refine f)

/-- Behind a text `x` a rule replaces a piece. -/
def ReplacesAt (c : Cut) (x : List Char) (r : Rule) (m : List Char) : Prop :=
  ∃ left right : Cut, c = left.join r m right ∧ left.original = x

variable {f : List Char → Cut} {c left right : Cut} {r r' : Rule} {m x u : List Char}

@[simp] theorem original_keep (d : Char) (c : Cut) : (c.keep d).original = d :: c.original := by
  cases c <;> rfl

@[simp] theorem result_keep (d : Char) (c : Cut) : (c.keep d).result = d :: c.result := by
  cases c <;> rfl

@[simp] theorem pieces_keep (d : Char) (c : Cut) : (c.keep d).pieces = c.pieces := by
  cases c <;> rfl

@[simp] theorem original_join : (left.join r m right).original =
    left.original ++ (m ++ right.original) := by
  induction left with
  | kept u => rfl
  | replaced u r' m' rest ih => simp only [join, original, ih, List.append_assoc]

@[simp] theorem result_join : (left.join r m right).result =
    left.result ++ (r.tag ++ right.result) := by
  induction left with
  | kept u => rfl
  | replaced u r' m' rest ih => simp only [join, result, ih, List.append_assoc]

@[simp] theorem pieces_join : (left.join r m right).pieces =
    left.pieces ++ (r, m) :: right.pieces := by
  induction left with
  | kept u => rfl
  | replaced u r' m' rest ih => simp only [join, pieces, ih, List.cons_append]

theorem keep_join (d : Char) : (left.join r m right).keep d = (left.keep d).join r m right := by
  cases left <;> rfl

theorem join_join {m' : List Char} {last : Cut} :
    (left.join r m right).join r' m' last = left.join r m (right.join r' m' last) := by
  induction left with
  | kept u => rfl
  | replaced u _ _ rest ih => simp only [join, ih]

theorem refine_join (f : List Char → Cut) :
    (left.join r m right).refine f = (left.refine f).join r m (right.refine f) := by
  induction left with
  | kept u => rfl
  | replaced u r' m' rest ih => simp only [join, refine, ih, join_join]

theorem original_refine (hf : ∀ u, (f u).original = u) (c : Cut) :
    (c.refine f).original = c.original := by
  induction c with
  | kept u => exact hf u
  | replaced u r m rest ih => rw [refine, original_join, original, hf, ih]

/-- Each piece of a refined cut is a piece of the cut, or of something that was kept in it. -/
theorem mem_pieces_refine {piece : Rule × List Char} (h : piece ∈ (c.refine f).pieces) :
    piece ∈ c.pieces ∨ ∃ u, piece ∈ (f u).pieces := by
  induction c with
  | kept u => exact .inr ⟨u, h⟩
  | replaced u r m rest ih =>
    rw [refine, pieces_join, List.mem_append, List.mem_cons] at h
    rcases h with h | rfl | h
    · exact .inr ⟨u, h⟩
    · exact .inl List.mem_cons_self
    · exact (ih h).imp_left (List.mem_cons_of_mem _)

namespace ReplacesAt

/-- Refining a cut takes away no piece. -/
theorem refine (hf : ∀ u, (f u).original = u) (h : c.ReplacesAt x r m) :
    (c.refine f).ReplacesAt x r m := by
  obtain ⟨left, right, rfl, rfl⟩ := h
  exact ⟨left.refine f, right.refine f, refine_join f, original_refine hf left⟩

theorem keep (h : c.ReplacesAt x r m) (d : Char) : (c.keep d).ReplacesAt (d :: x) r m := by
  obtain ⟨left, right, rfl, rfl⟩ := h
  exact ⟨left.keep d, right, keep_join d, original_keep d left⟩

/-- What is replaced behind a piece is replaced behind the text before it and the piece. -/
theorem behind (h : c.ReplacesAt x r m) (u : List Char) (r' : Rule) (m' : List Char) :
    (replaced u r' m' c).ReplacesAt (u ++ (m' ++ x)) r m := by
  obtain ⟨left, right, rfl, rfl⟩ := h
  exact ⟨replaced u r' m' left, right, rfl, rfl⟩

theorem mem_pieces (h : c.ReplacesAt x r m) : (r, m) ∈ c.pieces := by
  obtain ⟨left, right, rfl, -⟩ := h
  rw [pieces_join]
  exact List.mem_append_cons_self

end ReplacesAt

/-- A rule that is applied to a text with tags does to the kept parts what it does to them alone. -/
theorem apply_result (hlocal : r.pattern.OnlyBoundaries)
    (hdivides : ∀ piece ∈ c.pieces, r.pattern.Divides piece.1.tag)
    (hf : ∀ u, (f u).result = r.apply u) : r.apply c.result = (c.refine f).result := by
  induction c with
  | kept u => exact (hf u).symm
  | replaced u r' m rest ih =>
    obtain ⟨hdivides, hrest⟩ := List.forall_mem_cons.1 hdivides
    have hparts : r.apply (u ++ (r'.tag ++ rest.result)) =
        r.apply u ++ (r'.tag ++ r.apply rest.result) :=
      replaceAll_divided hlocal hdivides r.tag u rest.result
    rw [result, hparts, refine, result_join, hf, ih hrest]

end Cut

/-! ### The cut of one rule -/

/-- The cut of the text after a place by one rule. -/
def Rule.cutFrom (r : Rule) (s : Place) : Cut :=
  match _h : s.after with
  | [] => .kept []
  | c :: rest =>
    match r.pattern.match? s with
    | some t =>
      if t.after.length < s.after.length then
        .replaced [] r (s.after.take (s.after.length - t.after.length)) (r.cutFrom t)
      else (r.cutFrom ⟨c :: s.before, rest⟩).keep c
    | none => (r.cutFrom ⟨c :: s.before, rest⟩).keep c
termination_by s.after.length
decreasing_by all_goals simp_all

/-- The cut of a text by one rule. -/
def Rule.cut (r : Rule) (text : List Char) : Cut := r.cutFrom (.start text)

variable {r : Rule} {s t u v : Place} {text w x : List Char}

theorem cutFrom_nil (r : Rule) (before : List Char) : r.cutFrom ⟨before, []⟩ = .kept [] := by
  rw [Rule.cutFrom]

theorem cutFrom_hit (h : r.pattern.match? s = some t) (hlt : t.after.length < s.after.length)
    (hw : s.Reads w t) : r.cutFrom s = .replaced [] r w (r.cutFrom t) := by
  have htake : s.after.take (s.after.length - t.after.length) = w := by
    rw [hw.length_eq, Nat.add_sub_cancel, hw.after]
    exact List.take_left
  obtain ⟨before, _ | ⟨c, rest⟩⟩ := s
  · exact absurd hlt (Nat.not_lt_zero _)
  · rw [Rule.cutFrom, h]
    simp only [hlt, if_true]
    exact congrArg (Cut.replaced [] r · (r.cutFrom t)) htake

theorem cutFrom_skip {before rest : List Char} {c : Char}
    (h : ∀ t ∈ r.pattern.match? ⟨before, c :: rest⟩, (c :: rest).length ≤ t.after.length) :
    r.cutFrom ⟨before, c :: rest⟩ = (r.cutFrom ⟨c :: before, rest⟩).keep c := by
  rw [Rule.cutFrom]
  cases hmatch : r.pattern.match? ⟨before, c :: rest⟩ with
  | none => rfl
  | some t =>
    have hnot : ¬ t.after.length < (c :: rest).length := Nat.not_lt.2 (h t hmatch)
    simp only [hnot, if_false]

theorem original_cutFrom (r : Rule) (s : Place) : (r.cutFrom s).original = s.after := by
  induction s using r.pattern.scan_induction with
  | done before =>
    rw [cutFrom_nil]
    rfl
  | hit s t hmatch hlt ih =>
    obtain ⟨w, hw⟩ := (matches_of_match? hmatch).reads
    rw [cutFrom_hit hmatch hlt hw, Cut.original, ih, hw.after]
    rfl
  | skip before c rest h ih => rw [cutFrom_skip h, Cut.original_keep, ih]

theorem result_cutFrom (r : Rule) (s : Place) :
    (r.cutFrom s).result = r.pattern.replaceFrom r.tag s := by
  induction s using r.pattern.scan_induction with
  | done before =>
    rw [cutFrom_nil, replaceFrom_nil]
    rfl
  | hit s t hmatch hlt ih =>
    obtain ⟨w, hw⟩ := (matches_of_match? hmatch).reads
    rw [cutFrom_hit hmatch hlt hw, replaceFrom_hit r.tag hmatch hlt, Cut.result, ih]
    rfl
  | skip before c rest h ih => rw [cutFrom_skip h, replaceFrom_skip r.tag h, Cut.result_keep, ih]

/-- Each piece is matched in full when it stands alone. -/
theorem matches_of_mem_cutFrom (hr : Standalone r.pattern) (s : Place) :
    ∀ piece ∈ (r.cutFrom s).pieces,
      piece.1 = r ∧ r.pattern.Matches (.start piece.2) ⟨piece.2.reverse, []⟩ := by
  induction s using r.pattern.scan_induction with
  | done before =>
    rw [cutFrom_nil]
    exact List.forall_mem_nil _
  | hit s t hmatch hlt ih =>
    have hm := matches_of_match? hmatch
    obtain ⟨w, hw⟩ := hm.reads
    rw [cutFrom_hit hmatch hlt hw, Cut.pieces, List.forall_mem_cons]
    refine ⟨⟨rfl, ?_⟩, ih⟩
    obtain ⟨before, after⟩ := s
    obtain ⟨before', after'⟩ := t
    obtain rfl : after = w ++ after' := hw.after
    obtain rfl : before' = w.reverse ++ before := hw.before
    -- What it matched within the text it matches alone, which is what standing alone means.
    have halone : r.pattern.Matches ⟨[], w ++ []⟩ ⟨w.reverse ++ [], []⟩ :=
      hr.anywhere hm (.inl rfl) rfl
    rwa [List.append_nil, List.append_nil] at halone
  | skip before c rest h ih => rwa [cutFrom_skip h, Cut.pieces_keep]

/-! ### The cut of several rules -/

/-- The cut of a text by several rules, each of which cuts what the ones before it have kept. -/
def cut (rs : List Rule) (text : List Char) : Cut :=
  rs.foldl (fun c r => c.refine r.cut) (.kept text)

theorem original_cut_rule (r : Rule) (text : List Char) : (r.cut text).original = text :=
  original_cutFrom r (.start text)

theorem cut_append_singleton (rs : List Rule) (r : Rule) (text : List Char) :
    cut (rs ++ [r]) text = (cut rs text).refine r.cut := by
  rw [cut, List.foldl_append]
  rfl

/-- Later rules take away no piece. -/
theorem replacesAt_cut_append {rs : List Rule} {m : List Char}
    (h : (cut rs text).ReplacesAt x r m) (later : List Rule) :
    (cut (rs ++ later) text).ReplacesAt x r m := by
  induction later using List.reverseRecOn with
  | nil => rwa [List.append_nil]
  | append_singleton later r' ih =>
    rw [← List.append_assoc, cut_append_singleton]
    exact ih.refine (original_cut_rule r')

/-- What a cut by some rules tells of a text. -/
structure Cut.Describes (c : Cut) (rs : List Rule) (text : List Char) : Prop where
  original : c.original = text
  result : c.result = rs.foldl (fun t r => r.apply t) text
  /-- Each piece is matched in full, when it stands alone, by the pattern of its rule. -/
  pieces : ∀ piece ∈ c.pieces,
    piece.1 ∈ rs ∧ piece.1.pattern.Matches (.start piece.2) ⟨piece.2.reverse, []⟩

/-- **The rules cut a text as they change it.** -/
theorem describes_cut {rs : List Rule} (hrs : ∀ r ∈ rs, r ∈ rules) (text : List Char) :
    (cut rs text).Describes rs text := by
  -- One rule after the other: the cut so far is refined by the last one.
  induction rs using List.reverseRecOn with
  | nil => exact ⟨rfl, rfl, List.forall_mem_nil _⟩
  | append_singleton rs r ih =>
    simp only [List.forall_mem_append, List.forall_mem_singleton] at hrs
    obtain ⟨hrs, hr⟩ := hrs
    have ih := ih hrs
    rw [cut_append_singleton]
    refine ⟨?_, ?_, fun piece hpiece => ?_⟩
    · rw [Cut.original_refine (original_cut_rule r), ih.original]
    · -- The tags put in before stand whole in the text that this rule reads.
      have hdivides : ∀ piece ∈ (cut rs text).pieces, r.pattern.Divides piece.1.tag := by
        intro piece hpiece
        exact (isTag_rules _ (hrs _ (ih.pieces piece hpiece).1)).divides (standalone_rules r hr)
      have happly : r.apply (cut rs text).result = ((cut rs text).refine r.cut).result :=
        Cut.apply_result (onlyBoundaries_rules r hr) hdivides
          fun u => result_cutFrom r (.start u)
      rw [List.foldl_append, ← ih.result, ← happly]
      rfl
    · rcases Cut.mem_pieces_refine hpiece with hpiece | ⟨u, hpiece⟩
      · exact (ih.pieces piece hpiece).imp_left (List.mem_append_left _)
      · obtain ⟨hrule, hfull⟩ := matches_of_mem_cutFrom (standalone_rules r hr) _ piece hpiece
        rw [hrule]
        exact ⟨List.mem_append_right _ List.mem_cons_self, hfull⟩

example : ((cut rules "hetuni on 120587-763A, ip 127.0.0.1, numero 040-466 7288.".toList).pieces.map
    fun piece => (String.ofList piece.1.tag, String.ofList piece.2)) =
      [("<hetu>", "120587-763A"), ("<ip>", "127.0.0.1"), ("<phone>", "040-466 7288")] := by
  decide +kernel

/-! ### Identity codes -/

theorem reads_of_times_one {set : Text.Ranges} {n : Nat} (h : Times (.one set) n s t) :
    ∃ w, s.Reads w t ∧ w.length = n ∧ ∀ c ∈ w, set.contains c.toNat = true := by
  induction n generalizing s with
  | zero =>
    obtain rfl := times_zero.1 h
    exact ⟨[], .refl t, rfl, List.forall_mem_nil _⟩
  | succ n ih =>
    obtain ⟨u, hu, hrest⟩ := times_succ.1 h
    obtain ⟨c, hc, hread⟩ := matches_one.1 hu
    obtain ⟨w, hw, rfl, hall⟩ := ih hrest
    exact ⟨c :: w, hread.trans hw, rfl, List.forall_mem_cons.2 ⟨hc, hall⟩⟩

theorem reads_of_exactly {set : Text.Ranges} {n : Nat} (h : (exactly n (.one set)).Matches s t) :
    ∃ w, s.Reads w t ∧ w.length = n ∧ ∀ c ∈ w, set.contains c.toNat = true := by
  obtain ⟨k, hle, hmax, htimes⟩ := matches_repeat.1 h
  have hk : k ≤ n := hmax n rfl
  obtain rfl : k = n := by omega
  exact reads_of_times_one htimes

/-- An identity code is a date of six digits, a sign, and four word characters, three digits and the
check character. -/
theorem reads_of_identityCode (h : identityCode.Matches s t) : ∃ date sign number,
    s.Reads (date ++ sign :: number) t ∧ date.length = 6 ∧ number.length = 4 ∧
      (∀ c ∈ date, Text.isWord c = true) ∧ ∀ c ∈ number, Text.isWord c = true := by
  simp only [identityCode, Pattern.sequence, matches_seq] at h
  obtain ⟨s₀, hstart, s₁, hdate, s₂, hsign, s₃, hnumber, s₄, hcheck, hend⟩ := h
  obtain ⟨-, rfl⟩ := matches_anchor.1 hstart
  obtain ⟨-, rfl⟩ := matches_anchor.1 hend
  obtain ⟨date, hdate, hdatelength, hdigits⟩ := reads_of_exactly hdate
  obtain ⟨sign, -, hsign⟩ := matches_one.1 hsign
  obtain ⟨number, hnumber, hnumberlength, hdigits'⟩ := reads_of_exactly hnumber
  obtain ⟨check, hcheckSign, hcheck⟩ := matches_one.1 hcheck
  have hcheckWord : Text.isWord check = true :=
    Text.Ranges.contains_of_within Text.wordRanges_ordered (by decide +kernel) hcheckSign
  refine ⟨date, sign, number ++ [check], ?_, hdatelength, by simp [hnumberlength], ?_, ?_⟩
  · exact hdate.trans (hsign.trans (hnumber.trans hcheck))
  · exact fun c hc => Text.isWord_of_isDigit (hdigits c hc)
  · rw [List.forall_mem_append, List.forall_mem_singleton]
    exact ⟨fun c hc => Text.isWord_of_isDigit (hdigits' c hc), hcheckWord⟩

/-- The sign is the only character of a code that is no word character. -/
theorem eq_of_not_isWord {date number y : List Char} {sign e : Char}
    (h : date ++ sign :: number = x ++ e :: y) (hdate : ∀ c ∈ date, Text.isWord c = true)
    (hnumber : ∀ c ∈ number, Text.isWord c = true) (he : Text.isWord e = false) : y = number := by
  have hmem : e ∉ date ∧ e ∉ number := by
    refine ⟨fun hmem => ?_, fun hmem => ?_⟩
    · rw [hdate e hmem] at he
      cases he
    · rw [hnumber e hmem] at he
      cases he
  rcases List.append_eq_append_iff.1 h with ⟨_ | ⟨d, z⟩, -, hz⟩ | ⟨_ | ⟨d, z⟩, rfl, hz⟩
  · exact (List.cons.inj hz).2.symm
  · exact absurd (by rw [(List.cons.inj hz).2]; simp) hmem.2
  · exact (List.cons.inj hz).2
  · exact absurd (by rw [(List.cons.inj hz).1]; simp) hmem.1

/-- **Identity codes do not overlap.**  One that begins inside another one would begin behind its
sign, and then its date would go on where the word ends in which the other one ends. -/
theorem identityCode_apart (h : identityCode.Matches s t) (hw : s.Reads w t) (hx : s.Reads x u)
    (h' : identityCode.Matches u v) : x = [] ∨ w.length ≤ x.length := by
  obtain ⟨date, sign, number, hread, -, hnumber, hdateWord, hnumberWord⟩ := reads_of_identityCode h
  obtain ⟨date', sign', number', hread', hdate', -, hdateWord', -⟩ := reads_of_identityCode h'
  obtain rfl := hw.unique hread
  by_contra hinside
  obtain ⟨hne, hlt⟩ := not_or.1 hinside
  obtain ⟨x, e, rfl⟩ := (List.eq_nil_or_concat' x).resolve_left hne
  obtain ⟨y, hy, hu⟩ : ∃ y, date ++ sign :: number = x ++ e :: y ∧ u.after = y ++ t.after := by
    rcases List.append_eq_append_iff.1 (hx.after.symm.trans hw.after) with ⟨y, hy, hu⟩ | ⟨y, hy, -⟩
    · exact ⟨y, hy.trans (List.append_assoc _ _ _), hu⟩
    · exact absurd (hy ▸ (List.prefix_append _ y).length_le) hlt
  -- Before the second code there is no word character, and so it must be the sign.
  have he : Text.isWord e = false := by
    have hstart := standalone_identityCode.starts h'
    rw [hread'.after, hx.before, List.reverse_append] at hstart
    refine hstart.resolve_right ?_
    cases date' with
    | nil => cases hdate'
    | cons d rest => simp [headIs, hdateWord' d List.mem_cons_self]
  obtain rfl := eq_of_not_isWord hy hdateWord hnumberWord he
  -- So the first code ends inside the date of the second one.
  have hstop : headIs Text.isWord t.after = false := (standalone_identityCode.ends h).2
  rw [hread'.after, List.append_assoc] at hu
  rcases List.append_eq_append_iff.1 hu with ⟨z, hz, -⟩ | ⟨_ | ⟨d, z⟩, hz, hrest⟩
  · rw [hz, List.length_append] at hnumber
    omega
  · rw [hz, List.append_nil] at hdate'
    omega
  · rw [hrest] at hstop
    exact absurd hstop (by simp [headIs, hdateWord' d (by rw [hz]; simp)])

theorem length_of_identityCode (h : identityCode.Matches s t) (hw : s.Reads w t) :
    w.length = 11 := by
  obtain ⟨date, sign, number, hread, hdate, hnumber, -, -⟩ := reads_of_identityCode h
  obtain rfl := hw.unique hread
  simp [hdate, hnumber]

/-- The rule for identity codes, which is the first one. -/
def identityRule : Rule := ⟨identityCode, identityTag⟩

/-- Each identity code is a piece of the cut by their rule. -/
theorem replacesAt_cutFrom_identityRule (hx : s.Reads x u) (hw : u.Reads w v)
    (h : identityCode.Matches u v) : (identityRule.cutFrom s).ReplacesAt x identityRule w := by
  induction s using identityRule.pattern.scan_induction generalizing x with
  | done before =>
    -- No code is left to be read at the end of the text.
    have hlength := hw.length_eq
    rw [hx.after_eq_nil rfl, length_of_identityCode h hw, List.length_nil] at hlength
    omega
  | hit s t hmatch hlt ih =>
    have hm : identityCode.Matches s t := matches_of_match? hmatch
    obtain ⟨m, hread⟩ := hm.reads
    rw [cutFrom_hit hmatch hlt hread]
    have hlength : w.length = m.length :=
      (length_of_identityCode h hw).trans (length_of_identityCode hm hread).symm
    have htext : x ++ (w ++ v.after) = m ++ t.after := by
      rw [← hw.after, ← hx.after, hread.after]
    rcases identityCode_apart hm hread hx h with hnil | hle
    · -- It is the code that is replaced here.
      subst hnil
      have htext : w ++ v.after = m ++ t.after := htext
      obtain ⟨rfl, -⟩ := List.append_inj htext hlength
      exact ⟨.kept [], identityRule.cutFrom t, rfl, rfl⟩
    · -- The code comes after the match, which does not reach into it: the induction finds it
      -- behind.
      obtain ⟨y, rfl⟩ : m <+: x := List.prefix_of_prefix_length_le ⟨_, htext.symm⟩ ⟨_, rfl⟩ hle
      exact (ih (hx.of_append hread)).behind [] identityRule m
  | skip before c rest hskip ih =>
    rw [cutFrom_skip hskip]
    cases x with
    | nil =>
      obtain rfl : u = ⟨before, c :: rest⟩ := hx.eq_of_length (by rw [hx.length_eq]; simp)
      cases hmatch : identityCode.match? ⟨before, c :: rest⟩ with
      | none => exact absurd h (match?_eq_none_iff.1 hmatch v)
      | some t =>
        have hlt := length_lt_of_matches standalone_identityCode (matches_of_match? hmatch)
        -- A match begins here, so that this character cannot have been skipped.
        exact absurd hlt (Nat.not_lt.2 (hskip t hmatch))
    | cons d x =>
      obtain ⟨rfl, -⟩ := List.cons.inj hx.after
      have hc : (⟨before, c :: rest⟩ : Place).Reads [c] ⟨c :: before, rest⟩ := ⟨rfl, rfl⟩
      exact (ih (hx.of_append hc)).keep c

/-! ### All rules -/

/-- **Anonymization is one substitution in the text.**  There is a cut of the text that says what is
left of it: each piece is replaced by the tag of a rule that matches the piece in full when it
stands alone.  It comes about rule by rule, by cuts whose pieces all remain, and no match of a rule
reads any of the tags that the rules before it have put into the text.  Each identity code of the
text is one of the pieces, and the rule for identity codes replaces it. -/
theorem anonymizeText_cut (text : String) : ∃ cut : Cut,
    cut.original = text.toList ∧ cut.result = (anonymizeText text).toList ∧
    (∀ piece ∈ cut.pieces,
      piece.1 ∈ rules ∧ piece.1.pattern.Matches (.start piece.2) ⟨piece.2.reverse, []⟩) ∧
    (∀ done r later, rules = done ++ r :: later → ∃ before : Cut,
      before.original = text.toList ∧
      before.result = done.foldl (fun t r => r.apply t) text.toList ∧
      (∀ piece ∈ before.pieces, piece.1 ∈ done) ∧
      ∀ (left right : Cut) r' m, before = left.join r' m right →
        r.pattern.Spares left.result r'.tag right.result ∧
        cut.ReplacesAt left.original r' m) ∧
    ∀ x w s t, (Place.start text.toList).Reads x s → s.Reads w t → identityCode.Matches s t →
      cut.ReplacesAt x ⟨identityCode, identityTag⟩ w := by
  have hall : (cut rules text.toList).Describes rules text.toList :=
    describes_cut (fun _ hr => hr) text.toList
  -- The three parts that are left: the result, what each later rule finds, and the identity codes.
  refine ⟨cut rules text.toList, hall.original, ?_, hall.pieces, ?_, ?_⟩
  · rw [hall.result, anonymizeText, String.toList_ofList]
    rfl
  · intro done r later hrules
    have hdone : ∀ r' ∈ done, r' ∈ rules := by
      rw [hrules]
      exact fun r' => List.mem_append_left _
    have hr : r ∈ rules := by
      rw [hrules]
      exact List.mem_append_cons_self
    have hbefore := describes_cut hdone text.toList
    refine ⟨cut done text.toList, hbefore.original, hbefore.result,
      fun piece hpiece => (hbefore.pieces piece hpiece).1, fun left right r' m hjoin => ⟨?_, ?_⟩⟩
    · have hr' : r' ∈ done := by
        refine (hbefore.pieces (r', m) ?_).1
        rw [hjoin, Cut.pieces_join]
        exact List.mem_append_cons_self
      exact spares_of_isTag (standalone_rules r hr) (isTag_rules r' (hdone r' hr')) _ _
    · rw [hrules]
      exact replacesAt_cut_append ⟨left, right, hjoin, rfl⟩ (r :: later)
  · intro x w s t hx hw hm
    -- Identity codes go first, so that no other rule has touched the text yet.
    have hfirst : (cut [identityRule] text.toList).ReplacesAt x identityRule w :=
      replacesAt_cutFrom_identityRule hx hw hm
    exact replacesAt_cut_append hfirst _

end Privacy

end DialogueStore
