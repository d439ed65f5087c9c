/-
Phone numbers in a row.

Between the digits of a phone number there may be spaces, so that a match may run over
the space behind a number into the next one.  It reads as many digits as it can, and it
may end inside the next number, where a group of digits ends
(`Privacy.anonymizeText_rest_of_number`).  What is left there need not be a number any
more.

This does not happen where the numbers are either written without spaces and hyphens or
begin with the sign of a country code: the match cannot run into a sign, and it cannot
end inside digits that are not grouped.

* `Pattern.exists_row` — where a match ends that begins in a row of texts,
* `Pattern.replaceFrom_row` — replacing goes from text to text, and each is replaced,
  alone or with the ones behind it, or kept,
* `Privacy.match_of_anonymize` — a text that becomes the tag is one match,
* `Privacy.anonymizeText_row` — from numbers of these two kinds nothing but tags is left.

Design notes: a match that begins with a number may read the next ones, too, and then
one tag stands for all of them.  So the number of tags is not the number of texts.
-/
import DialogueStore.Proofs.Pieces

namespace DialogueStore

open Anchor (headIs)

open Privacy (Standalone)

namespace Pattern

variable {p q : Pattern} {s t : Place} {text tag w x y a b : List Char}
  {texts : List (List Char)}

/-! ### Groups of digits -/

theorem headIs_append_left {k : Char → Bool} (h : headIs k x = true) :
    headIs k (x ++ y) = true := by
  cases x with
  | nil => cases h
  | cons c x => exact h

/-- Behind each space of a text there is a digit. -/
def Grouped (w : List Char) : Prop := ∀ ⦃x y⦄, w = x ++ ' ' :: y → headIs Text.isDigit y = true

namespace Grouped

theorem of_append (h : Grouped (x ++ y)) : Grouped y :=
  fun v w hw => h (x := x ++ v) (by rw [hw, List.append_assoc])

theorem append (hx : Grouped x) (hy : Grouped y) : Grouped (x ++ y) := by
  intro v w h
  rcases List.append_eq_append_iff.1 h with ⟨z, -, hz⟩ | ⟨_ | ⟨c, z⟩, hv, hz⟩
  · exact hy hz
  · exact hy (x := []) hz.symm
  · obtain ⟨rfl, rfl⟩ := List.cons.inj hz
    exact headIs_append_left (hx hv)

end Grouped

/-- In all matches there is a digit behind each space. -/
def ReadsGroups (p : Pattern) : Prop := ∀ ⦃s t w⦄, p.Matches s t → s.Reads w t → Grouped w

namespace ReadsGroups

theorem of_mentions (h : p.mentions ' ' = false) : p.ReadsGroups := by
  intro s t w hm hw x y hsplit
  exact absurd (by rw [hsplit]; simp) (hm.not_mem h hw)

theorem seq (hp : p.ReadsGroups) (hq : q.ReadsGroups) : ReadsGroups (.seq p q) := by
  intro s t w hm hw
  obtain ⟨u, hsu, hut⟩ := matches_seq.1 hm
  obtain ⟨v, hv⟩ := hsu.reads
  obtain ⟨v', hv'⟩ := hut.reads
  rw [hw.unique (hv.trans hv')]
  exact (hp hsu hv).append (hq hut hv')

theorem times (hp : p.ReadsGroups) {n : Nat} (h : Times p n s t) (hw : s.Reads w t) :
    Grouped w := by
  induction n generalizing s w with
  | zero =>
    obtain rfl := times_zero.1 h
    rw [hw.unique (.refl t)]
    intro x y hnil
    simp at hnil
  | succ n ih =>
    obtain ⟨u, hsu, hut⟩ := times_succ.1 h
    obtain ⟨v, hv⟩ := hsu.reads
    obtain ⟨v', hv'⟩ := hut.reads Matches.reads
    rw [hw.unique (hv.trans hv')]
    exact (hp hsu hv).append (ih hut hv')

theorem «repeat» (hp : p.ReadsGroups) (m : Nat) (limit : Option Nat) (greedy : Bool) :
    ReadsGroups (.repeat m limit greedy p) := by
  intro s t w hm hw
  obtain ⟨n, -, -, h⟩ := matches_repeat.1 hm
  exact hp.times h hw

end ReadsGroups

/-! ### Texts in a row -/

/-- Texts in a row, with a space before each of them. -/
def row (texts : List (List Char)) : List Char := texts.flatMap (' ' :: ·)

@[simp] theorem row_nil : row [] = [] := rfl

@[simp] theorem row_cons (text : List Char) (texts : List (List Char)) :
    row (text :: texts) = ' ' :: (text ++ row texts) := rfl

theorem intercalate_eq_row (text : List Char) (texts : List (List Char)) :
    [' '].intercalate (text :: texts) = text ++ row texts := by
  induction texts generalizing text with
  | nil => simp
  | cons next texts ih =>
    rw [List.intercalate_cons_cons, ih, row_cons, List.append_assoc]
    rfl

theorem headIs_row {k : Char → Bool} (hk : k ' ' = false) (texts : List (List Char)) :
    headIs k (row texts) = false := by
  cases texts with
  | nil => rfl
  | cons text texts => exact hk

theorem headIs_append_row {k : Char → Bool} (hk : k ' ' = false) (text : List Char)
    (texts : List (List Char)) : headIs k (text ++ row texts) = headIs k text := by
  cases text with
  | nil => exact headIs_row hk texts
  | cons c text => rfl

/-- What may stand in a row: the tag, a text of digits, or a text that begins with a sign and is
matched in full. -/
inductive Item (p : Pattern) (tag : List Char) : List Char → Prop
  | tag : Item p tag tag
  | digits {text : List Char} (hnil : text ≠ []) (h : ∀ c ∈ text, Text.isDigit c = true) :
    Item p tag text
  | signed {text : List Char} (hsign : headIs Text.isWord text = false)
    (h : p.match? (.start text) = some ⟨text.reverse, []⟩) : Item p tag text

theorem headIs_isDigit_false (h : headIs Text.isWord w = false) :
    headIs Text.isDigit w = false := by
  cases w with
  | nil => rfl
  | cons c w => exact eq_false_of_ne_true fun hc => by simp_all [headIs, Text.isWord_of_isDigit]

/-- What begins with a digit is made of digits. -/
theorem Item.forall_isDigit (h : Item p tag text) (htag : IsTag tag)
    (hdigit : headIs Text.isDigit text = true) : ∀ c ∈ text, Text.isDigit c = true := by
  cases h with
  | tag =>
    obtain ⟨body, rfl⟩ := htag.sign
    exact absurd hdigit (by simp [headIs]; decide)
  | digits hnil h => exact h
  | signed hsign h => exact absurd (headIs_isDigit_false hsign) (by simp [hdigit])

/-- What is read of a text to its end, or of digits up to where no word goes on, is all of it. -/
theorem exists_of_read (hfirst : text.length ≤ w.length ∨ ∀ c ∈ text, Text.isDigit c = true)
    (hstop : headIs Text.isWord a = false) (h : w ++ a = text ++ b) :
    ∃ z, w = text ++ z ∧ b = z ++ a := by
  rcases List.append_eq_append_iff.1 h with ⟨_ | ⟨d, z⟩, htext, ha⟩ | hread
  · exact ⟨[], by simpa using htext.symm, by simpa using ha.symm⟩
  · rcases hfirst with hle | hdigits
    · rw [htext, List.length_append, List.length_cons] at hle
      omega
    · have hd : Text.isWord d = true := Text.isWord_of_isDigit (hdigits d (by rw [htext]; simp))
      rw [ha, List.cons_append, headIs, hd] at hstop
      cases hstop
  · exact hread

/-- **Where a match ends that begins in a row.**  If it reads the first text to its end, or that is
made of digits, the match ends where a text does: it can run into digits only, and a word goes on
between them. -/
theorem exists_row (hitems : ∀ t ∈ texts, Item p tag t) (htag : IsTag tag)
    (hfirst : text.length ≤ w.length ∨ ∀ c ∈ text, Text.isDigit c = true) (hw : Grouped w)
    (hstop : headIs Text.isWord a = false) (h : w ++ a = text ++ row texts) :
    ∃ done rest, texts = done ++ rest ∧ a = row rest := by
  induction texts generalizing text w with
  | nil =>
    obtain ⟨z, -, hz⟩ := exists_of_read hfirst hstop h
    exact ⟨[], [], rfl, (List.append_eq_nil_iff.1 hz.symm).2⟩
  | cons next texts ih =>
    obtain ⟨hnext, hitems⟩ := List.forall_mem_cons.1 hitems
    obtain ⟨_ | ⟨c, z⟩, rfl, hz⟩ := exists_of_read hfirst hstop h
    · exact ⟨[], next :: texts, rfl, hz.symm⟩
    · -- The match has gone over the space, and so there is a digit behind it.
      rw [row_cons, List.cons_append] at hz
      obtain ⟨rfl, hread⟩ := List.cons.inj hz
      have hdigit : headIs Text.isDigit next = true := by
        rw [← headIs_append_row (by decide) next texts, hread]
        exact headIs_append_left (hw rfl)
      have hz' : Grouped z := by
        rw [List.append_cons] at hw
        exact hw.of_append
      obtain ⟨done, rest, rfl, hrest⟩ :=
        ih hitems (.inr (hnext.forall_isDigit htag hdigit)) hz' hread.symm
      exact ⟨next :: done, rest, rfl, hrest⟩

/-- Nothing begins inside a word. -/
theorem replaceFrom_of_word (hp : Standalone p) (tag : List Char)
    (hb : headIs Text.isWord b = true) (hword : ∀ c ∈ w, Text.isWord c = true) :
    p.replaceFrom tag ⟨b, w ++ a⟩ = w ++ p.replaceFrom tag ⟨w.reverse ++ b, a⟩ := by
  induction w generalizing b with
  | nil => rfl
  | cons c w ih =>
    obtain ⟨hc, hword⟩ := List.forall_mem_cons.1 hword
    have hskip : p.replaceFrom tag ⟨b, c :: (w ++ a)⟩ =
        c :: p.replaceFrom tag ⟨c :: b, w ++ a⟩ := by
      refine replaceFrom_skip tag fun t ht => ?_
      rcases hp.starts (matches_of_match? ht) with hstart | hstart
      · exact absurd hb (by rw [hstart]; decide)
      · exact absurd hc (ne_true_of_eq_false hstart)
    rw [List.cons_append, hskip, ih (b := c :: b) hc hword, List.reverse_cons, List.append_assoc]
    rfl

/-- A text is matched in full. -/
def MatchesAll (p : Pattern) (text : List Char) : Prop :=
  p.Matches (.start text) ⟨text.reverse, []⟩

theorem MatchesAll.exists_cons {k : Char → Bool} (h : p.MatchesAll text) (hp : Opens k p) :
    ∃ c w, k c = true ∧ text = c :: w := by
  obtain ⟨c, w, hc, hw⟩ := hp h
  have hafter : text = (c :: w) ++ [] := hw.after
  exact ⟨c, w, hc, hafter.trans (List.append_nil _)⟩

section

variable (hp : Standalone p) (hlocal : p.OnlyBoundaries) (hgroups : p.ReadsGroups)
  (htag : IsTag tag)

include hp hgroups htag

/-- A match that begins with a text of a row is replaced, and what is left is a row. -/
theorem replaceFrom_hit_row (hitems : ∀ t ∈ texts, Item p tag t)
    (hmatch : p.match? ⟨b, text ++ row texts⟩ = some t)
    (hfirst : t.after.length ≤ (row texts).length ∨ ∀ c ∈ text, Text.isDigit c = true) :
    ∃ b' done rest, texts = done ++ rest ∧
      p.replaceFrom tag ⟨b, text ++ row texts⟩ = tag ++ p.replaceFrom tag ⟨b', row rest⟩ := by
  have hm := matches_of_match? hmatch
  obtain ⟨w, hw⟩ := hm.reads
  have hread : w ++ t.after = text ++ row texts := hw.after.symm
  have hlong : text.length ≤ w.length ∨ ∀ c ∈ text, Text.isDigit c = true := by
    refine hfirst.imp_left fun hle => ?_
    have hlength := congrArg List.length hread
    simp only [List.length_append] at hlength
    omega
  obtain ⟨done, rest, hsplit, hrest⟩ :=
    exists_row hitems htag hlong (hgroups hm hw) (hp.ends hm).2 hread
  refine ⟨t.before, done, rest, hsplit, ?_⟩
  rw [replaceFrom_hit tag hmatch (length_lt_of_matches hp hm), ← hrest]

include hlocal

/-- **One text of a row** is replaced, alone or with some of the ones behind it, or it is kept,
since it is not matched in full. -/
theorem replaceFrom_item (hitem : Item p tag text) (hitems : ∀ t ∈ texts, Item p tag t)
    (hb : headIs Text.isWord b = false) : ∃ out b' done rest, texts = done ++ rest ∧
      p.replaceFrom tag ⟨b, text ++ row texts⟩ = out ++ p.replaceFrom tag ⟨b', row rest⟩ ∧
      (out = tag ∨ out = text ∧ ¬ p.MatchesAll text) := by
  cases hitem with
  | tag =>
    exact ⟨text, _, [], texts, rfl, replaceFrom_of_inert text b (htag.divides hp).inert, .inl rfl⟩
  | signed hsign hfull =>
    -- A number with a sign matches in full, so the first match is no shorter; it may still run
    -- into the numbers behind, of which it leaves a row.
    obtain ⟨u, hmatch, hu⟩ := match?_inside (s := .start text) (b := b) (a := row texts) hlocal
      (fun _ => hb) (headIs_row (by decide) texts) hfull
    have hle : u.after.length ≤ (row texts).length := by
      rcases hu with rfl | hlt
      · exact Nat.le.refl
      · exact Nat.le_of_lt hlt
    obtain ⟨b', done, rest, hsplit, hout⟩ :=
      replaceFrom_hit_row hp hgroups htag hitems hmatch (.inl hle)
    exact ⟨tag, b', done, rest, hsplit, hout, .inl rfl⟩
  | digits hnil hdigits =>
    cases hmatch : p.match? ⟨b, text ++ row texts⟩ with
    | some u =>
      obtain ⟨b', done, rest, hsplit, hout⟩ :=
        replaceFrom_hit_row hp hgroups htag hitems hmatch (.inr hdigits)
      exact ⟨tag, b', done, rest, hsplit, hout, .inl rfl⟩
    | none =>
      -- Nothing begins at this item: it is copied, and the search goes on behind it, since no
      -- match begins within a word.
      have hfree := match?_eq_none_iff.1 hmatch
      refine ⟨text, text.reverse ++ b, [], texts, rfl, ?_, .inr ⟨rfl, fun hall => ?_⟩⟩
      · obtain ⟨c, w, rfl⟩ := List.exists_cons_of_ne_nil hnil
        rw [List.forall_mem_cons] at hdigits
        have hskip : p.replaceFrom tag ⟨b, c :: (w ++ row texts)⟩ =
            c :: p.replaceFrom tag ⟨c :: b, w ++ row texts⟩ :=
          replaceFrom_skip tag fun t ht => absurd (matches_of_match? ht) (hfree t)
        have hword : ∀ d ∈ w, Text.isWord d = true := fun d hd =>
          Text.isWord_of_isDigit (hdigits.2 d hd)
        rw [List.cons_append, hskip,
          replaceFrom_of_word hp tag (b := c :: b) (Text.isWord_of_isDigit hdigits.1) hword,
          List.reverse_cons, List.append_assoc]
        rfl
      · have hall : p.Matches ⟨[], text ++ []⟩ ⟨text.reverse ++ [], []⟩ := by
          simpa [MatchesAll, Place.start] using hall
        exact hfree _ (hp.anywhere hall (.inl hb) (headIs_row (by decide) texts))

/-- **Replacing in a row** leaves a row of tags and of texts that are not matched in full. -/
theorem replaceFrom_row (hitem : Item p tag text) (hitems : ∀ t ∈ texts, Item p tag t)
    (hb : headIs Text.isWord b = false) : ∃ out outs,
      p.replaceFrom tag ⟨b, text ++ row texts⟩ = out ++ row outs ∧ outs.length ≤ texts.length ∧
      ∀ o ∈ out :: outs, o = tag ∨ o ∈ text :: texts ∧ ¬ p.MatchesAll o := by
  -- One match may read several texts, so the induction is on how many of them are left.
  obtain ⟨n, hn⟩ : ∃ n, texts.length = n := ⟨_, rfl⟩
  induction n using Nat.strongRecOn generalizing text texts b with
  | ind n ih =>
    subst hn
    obtain ⟨out, b', done, rest, rfl, hout, hkept⟩ :=
      replaceFrom_item hp hlocal hgroups htag hitem hitems hb
    have hfirst : out = tag ∨ out ∈ text :: (done ++ rest) ∧ ¬ p.MatchesAll out := by
      refine hkept.imp_right ?_
      rintro ⟨rfl, hall⟩
      exact ⟨List.mem_cons_self, hall⟩
    rw [hout]
    cases rest with
    | nil =>
      refine ⟨out, [], by rw [row_nil, replaceFrom_nil], Nat.zero_le _, ?_⟩
      exact List.forall_mem_singleton.2 hfirst
    | cons next rest =>
      have hskip : p.replaceFrom tag ⟨b', row (next :: rest)⟩ =
          ' ' :: p.replaceFrom tag ⟨' ' :: b', next ++ row rest⟩ := by
        refine replaceFrom_skip tag fun t ht => ?_
        obtain ⟨c, w, hc, hw⟩ := hp.opens (matches_of_match? ht)
        obtain ⟨rfl, -⟩ := List.cons.inj hw.after
        exact absurd hc (by decide)
      have hspace : headIs Text.isWord (' ' :: b') = false := headIs_row (by decide) [b']
      obtain ⟨hnext, hrest⟩ := List.forall_mem_cons.1 (List.forall_mem_append.1 hitems).2
      obtain ⟨out', outs, houts, hlength, hall⟩ :=
        ih rest.length (by simp only [List.length_append, List.length_cons]; omega) hnext hrest
          hspace rfl
      refine ⟨out, out' :: outs, by rw [hskip, houts, row_cons], ?_, ?_⟩
      · simp only [List.length_append, List.length_cons]
        omega
      · refine List.forall_mem_cons.2 ⟨hfirst, fun o ho => (hall o ho).imp_right ?_⟩
        rintro ⟨hmem, hnot⟩
        exact ⟨List.mem_cons_of_mem _ (List.mem_append_right _ hmem), hnot⟩

end

end Pattern

namespace Privacy

open Pattern

variable {text : List Char} {texts : List (List Char)} {r r' : Rule} {x m m' : List Char}

/-! ### The rules for phone numbers -/

theorem readsGroups_phoneDigit : phoneDigit.ReadsGroups := by
  intro s t w hm hw x y hsplit
  obtain ⟨u, hsep, hdigit⟩ := matches_seq.1 hm
  obtain ⟨n, -, hmax, htimes⟩ := matches_repeat.1 hsep
  have hn : n ≤ 1 := hmax 1 rfl
  obtain ⟨v, hv, rfl, -⟩ := reads_of_times_one htimes
  obtain ⟨d, hd, hread⟩ := matches_one.1 hdigit
  obtain rfl := hw.unique (hv.trans hread)
  rcases List.eq_nil_or_concat' y with rfl | ⟨z, e, rfl⟩
  · -- The last character is no space.
    obtain ⟨-, hlast⟩ := List.append_inj' hsplit rfl
    obtain rfl : d = ' ' := (List.cons.inj hlast).1
    exact absurd hd (by decide)
  · have hsplit : v ++ [d] = (x ++ ' ' :: z) ++ [e] := by simpa using hsplit
    obtain ⟨rfl, hlast⟩ := List.append_inj' hsplit rfl
    obtain rfl : d = e := (List.cons.inj hlast).1
    obtain rfl : z = [] := by
      rw [← List.length_eq_zero_iff]
      simp only [List.length_append, List.length_cons] at hn
      omega
    exact hd

theorem readsGroups_internationalPhone : internationalPhone.ReadsGroups :=
  (ReadsGroups.of_mentions (by decide)).seq
    ((readsGroups_phoneDigit.repeat _ _ _).seq (.of_mentions (by decide)))

theorem readsGroups_domesticPhone : domesticPhone.ReadsGroups :=
  (ReadsGroups.of_mentions (by decide)).seq
    ((ReadsGroups.of_mentions (by decide)).seq
      ((ReadsGroups.of_mentions (by decide)).seq
        ((readsGroups_phoneDigit.repeat _ _ _).seq (.of_mentions (by decide)))))

/-- An international number that begins with a digit begins with two zeros. -/
theorem matches_of_opens_digit {s t : Place} (h : internationalPhone.Matches s t)
    (hdigit : headIs Text.isDigit s.after = true) :
    Matches (.seq (sequence [boundary, char '0', char '0', between 1 3 digit])
      (.seq (between 6 12 phoneDigit) boundary)) s t := by
  have hsign : ∀ {c : Char} {q : Pattern}, Text.isDigit c = false →
      ¬ Matches (.seq (char c) q) s t := by
    intro c q hc hm
    obtain ⟨u, hone, -⟩ := matches_seq.1 hm
    obtain ⟨d, hd, hread⟩ := matches_one.1 hone
    rw [hread.after, Text.eq_of_contains_char hd, List.cons_append, headIs, hc] at hdigit
    cases hdigit
  simp only [internationalPhone, countryCode, Pattern.sequence, matches_alt_seq, matches_alt,
    matches_seq_seq] at h ⊢
  rcases h with h | h | h
  · exact absurd h (hsign (by decide))
  · exact absurd h (hsign (by decide))
  · exact h

theorem digitRanges_ordered : Text.digitRanges.Pairwise fun r s => r.1 ≤ s.1 := by
  have h : Text.digitRanges.IsChain fun r s => r.1 ≤ s.1 := by decide +kernel
  exact h.pairwise

/-- A number that begins with a digit, and in which there is neither a space nor a hyphen, is made
of digits. -/
theorem forall_isDigit_of_matches {s t : Place} {w : List Char}
    (h : internationalPhone.Matches s t ∨ domesticPhone.Matches s t) (hw : s.Reads w t)
    (hdigit : headIs Text.isDigit s.after = true) (hplain : ∀ c ∈ w, c ≠ ' ' ∧ c ≠ '-') :
    ∀ c ∈ w, Text.isDigit c = true := by
  have hall : ∀ q : Pattern, q.alphabet.within
      (Text.digitRanges ++ [' ', '-'].map fun c => (c.toNat, c.toNat)) = true →
      q.Matches s t → ∀ c ∈ w, Text.isDigit c = true := by
    intro q hwithin hm c hc
    have hmentions : q.mentions c = true := by
      by_contra hnot
      exact hm.not_mem (eq_false_of_ne_true hnot) hw hc
    refine (mem_of_mentions digitRanges_ordered hwithin hmentions).resolve_right fun hsign => ?_
    obtain ⟨hspace, hhyphen⟩ := hplain c hc
    simp [hspace, hhyphen] at hsign
  rcases h with h | h
  · exact hall _ (by decide) (matches_of_opens_digit h hdigit)
  · exact hall _ (by decide) h

/-! ### Texts that become the tag -/

def internationalRule : Rule := ⟨internationalPhone, phoneTag⟩

def domesticRule : Rule := ⟨domesticPhone, phoneTag⟩

/-- The rules that are applied before those for phone numbers. -/
def earlierRules : List Rule := [⟨identityCode, identityTag⟩, ⟨ipv4Address, ipTag⟩]

theorem Cut.eq_kept_nil {c : Cut} (hpieces : ∀ piece ∈ c.pieces, IsTag piece.1.tag)
    (h : c.result = []) : c = .kept [] := by
  cases c with
  | kept u => exact congrArg Cut.kept h
  | replaced u r m rest =>
    obtain ⟨body, hbody⟩ := (hpieces _ List.mem_cons_self).sign
    rw [Cut.result, hbody] at h
    simp at h

/-- The sign that opens a tag is not in it once more. -/
theorem eq_nil_of_append_phoneTag {u v : List Char} (h : u ++ '<' :: v = phoneTag) : u = [] := by
  cases u with
  | nil => rfl
  | cons c u =>
    have htail : u ++ '<' :: v = phoneTag.tail := by
      rw [← h]
      rfl
    have hmem : '<' ∈ phoneTag.tail := by
      rw [← htail]
      exact List.mem_append_cons_self
    exact absurd hmem (by decide)

/-- **A text that becomes the tag** is the tag, or one match of a rule for phone numbers. -/
theorem cut_of_anonymize (h : anonymize text = phoneTag) : cut rules text = .kept phoneTag ∨
    ∃ r ∈ rules, r.tag = phoneTag ∧ cut rules text = .replaced [] r text (.kept []) := by
  have hall : (cut rules text).Describes rules text := describes_cut (fun _ hr => hr) text
  obtain ⟨horiginal, hresult, hpieces⟩ := hall
  have hresult : (cut rules text).result = phoneTag := hresult.trans h
  cases hcut : cut rules text with
  | kept u =>
    rw [hcut] at hresult
    exact .inl (congrArg Cut.kept hresult)
  | replaced u r m rest =>
    rw [hcut] at horiginal hresult hpieces
    have hr : r ∈ rules := (hpieces (r, m) List.mem_cons_self).1
    obtain ⟨body, hbody⟩ := (isTag_rules r hr).sign
    -- The result begins with the sign of a tag, so nothing is kept before the first piece.
    have hu : u = [] := by
      rw [Cut.result, hbody] at hresult
      exact eq_nil_of_append_phoneTag hresult
    subst hu
    have htag : r.tag = phoneTag ∧ rest.result = [] := by
      simp only [Cut.result, List.nil_append] at hresult
      simp only [rules, List.mem_cons, List.not_mem_nil, or_false] at hr
      -- The tag fills the result, which leaves the two rules for phone numbers.
      rcases hr with rfl | rfl | rfl | rfl
      · exact absurd hresult (by simp [identityTag, phoneTag])
      · exact absurd hresult (by simp [ipTag, phoneTag])
      · exact ⟨rfl, List.append_right_eq_self.1 hresult⟩
      · exact ⟨rfl, List.append_right_eq_self.1 hresult⟩
    have htags : ∀ piece ∈ rest.pieces, IsTag piece.1.tag := fun piece hpiece =>
      isTag_rules _ (hpieces piece (List.mem_cons_of_mem _ hpiece)).1
    obtain rfl : rest = .kept [] := Cut.eq_kept_nil htags htag.2
    obtain rfl : m = text := by simpa [Cut.original] using horiginal
    exact .inr ⟨r, hr, htag.1, rfl⟩

/-- Only matches of phone numbers are replaced in such a text, and each is the whole text. -/
theorem pieces_of_anonymize (h : anonymize text = phoneTag) :
    ∀ piece ∈ (cut rules text).pieces, piece.1.tag = phoneTag ∧ piece.2 = text := by
  rcases cut_of_anonymize h with hcut | ⟨r, -, htag, hcut⟩
  · rw [hcut]
    exact List.forall_mem_nil _
  · rw [hcut]
    exact List.forall_mem_singleton.2 ⟨htag, rfl⟩

/-- The earlier rules have nothing to do in such a text. -/
theorem cut_earlierRules (h : anonymize text = phoneTag) :
    cut earlierRules text = .kept text := by
  have hall : (cut earlierRules text).Describes earlierRules text :=
    describes_cut (by simp [earlierRules, rules]) text
  cases hcut : cut earlierRules text with
  | kept u =>
    have horiginal := hall.original
    rw [hcut] at horiginal
    exact congrArg Cut.kept horiginal
  | replaced u r m rest =>
    -- A piece of the cut so far would be there in the end, too.
    have hpiece : (cut earlierRules text).ReplacesAt u r m := ⟨.kept u, rest, hcut, rfl⟩
    have hr : r ∈ earlierRules := (hall.pieces (r, m) hpiece.mem_pieces).1
    have htag : r.tag = phoneTag :=
      (pieces_of_anonymize h (r, m) (replacesAt_cut_append hpiece _).mem_pieces).1
    simp only [earlierRules, List.mem_cons, List.not_mem_nil, or_false] at hr
    rcases hr with rfl | rfl
    · exact absurd htag (by decide)
    · exact absurd htag (by decide)

theorem foldl_earlierRules (h : anonymize text = phoneTag) :
    earlierRules.foldl (fun t r => r.apply t) text = text := by
  have hall : (cut earlierRules text).Describes earlierRules text :=
    describes_cut (by simp [earlierRules, rules]) text
  rw [← hall.result, cut_earlierRules h]
  rfl

/-- A match with which such a text begins is the whole text. -/
theorem match_of_anonymize {u : Place} (h : anonymize text = phoneTag)
    (hmatch : internationalPhone.match? (.start text) = some u) : u = ⟨text.reverse, []⟩ := by
  have hm := matches_of_match? hmatch
  obtain ⟨w, hw⟩ := hm.reads
  have hlt := length_lt_of_matches standalone_internationalPhone hm
  have hcut : cut (earlierRules ++ [internationalRule]) text =
      .replaced [] internationalRule w (internationalRule.cutFrom u) := by
    rw [cut_append_singleton, cut_earlierRules h]
    exact cutFrom_hit hmatch hlt hw
  have hpiece := replacesAt_cut_append ⟨.kept [], _, hcut, rfl⟩ [domesticRule]
  obtain rfl : w = text := (pieces_of_anonymize h _ hpiece.mem_pieces).2
  obtain ⟨before, after⟩ := u
  obtain rfl : after = [] := List.self_eq_append_right.1 hw.after
  have hbefore : before = w.reverse ++ [] := hw.before
  rw [hbefore, List.append_nil]

/-! ### Numbers in a row -/

/-- A number that does not run together with others: it begins with the sign of a country code, or
it is written without spaces and hyphens. -/
def Delimited (text : List Char) : Prop :=
  text.head? = some '+' ∨ text.head? = some '(' ∨ ∀ c ∈ text, c ≠ ' ' ∧ c ≠ '-'

instance (text : List Char) : Decidable (Delimited text) :=
  decidable_of_iff (text.head? = some '+' ∨ text.head? = some '(' ∨
    (text.all fun c => c != ' ' && c != '-') = true) (by simp [Delimited])

theorem opens_domesticPhone : Opens Text.isDigit domesticPhone := (opens_zero.seq _).anchor_seq _

/-- Such a text is the tag, or a rule for phone numbers matches it in full. -/
theorem matchesAll_of_anonymize (h : anonymize text = phoneTag) :
    text = phoneTag ∨ internationalPhone.MatchesAll text ∨ domesticPhone.MatchesAll text := by
  have hall : (cut rules text).Describes rules text := describes_cut (fun _ hr => hr) text
  rcases cut_of_anonymize h with hcut | ⟨r, hr, htag, hcut⟩
  · have horiginal := hall.original
    rw [hcut] at horiginal
    exact .inl horiginal.symm
  · have hfull : r.pattern.MatchesAll text := by
      refine (hall.pieces (r, text) ?_).2
      rw [hcut]
      exact List.mem_cons_self
    simp only [rules, List.mem_cons, List.not_mem_nil, or_false] at hr
    rcases hr with rfl | rfl | rfl | rfl
    · exact absurd htag (by decide)
    · exact absurd htag (by decide)
    · exact .inr (.inl hfull)
    · exact .inr (.inr hfull)

/-- A number that begins with a sign. -/
theorem item_of_sign {c : Char} {w : List Char} (h : anonymize (c :: w) = phoneTag)
    (hfull : internationalPhone.MatchesAll (c :: w)) (hc : Text.isWord c = false) :
    Item internationalPhone phoneTag (c :: w) := by
  cases hmatch : internationalPhone.match? (.start (c :: w)) with
  | none => exact absurd hfull (match?_eq_none_iff.1 hmatch _)
  | some u =>
    rw [match_of_anonymize h hmatch] at hmatch
    exact .signed hc hmatch

/-- Such a text may stand in a row, and if the rule for international numbers does not match it, the
other one does. -/
theorem item_of_anonymize (h : anonymize text = phoneTag) (hform : Delimited text) :
    Item internationalPhone phoneTag text ∧ (internationalPhone.MatchesAll text ∨
      Item domesticPhone phoneTag text ∧ (text = phoneTag ∨ domesticPhone.MatchesAll text)) := by
  rcases matchesAll_of_anonymize h with rfl | hfull
  · exact ⟨.tag, .inr ⟨.tag, .inl rfl⟩⟩
  obtain ⟨c, w, hc, rfl⟩ : ∃ c w, begins c = true ∧ text = c :: w := by
    rcases hfull with hfull | hfull
    · exact hfull.exists_cons standalone_internationalPhone.opens
    · exact hfull.exists_cons standalone_domesticPhone.opens
  by_cases hdigit : Text.isDigit c = true
  · -- It begins with a digit: then the form allows no gap in it, and all of it are digits.
    have hplain : ∀ d ∈ c :: w, d ≠ ' ' ∧ d ≠ '-' := by
      rcases hform with hform | hform | hform
      · obtain rfl : c = '+' := by simpa using hform
        exact absurd hdigit (by decide)
      · obtain rfl : c = '(' := by simpa using hform
        exact absurd hdigit (by decide)
      · exact hform
    have hread : (Place.start (c :: w)).Reads (c :: w) ⟨(c :: w).reverse, []⟩ :=
      ⟨(List.append_nil _).symm, (List.append_nil _).symm⟩
    have hdigits := forall_isDigit_of_matches hfull hread hdigit hplain
    have hnil : c :: w ≠ [] := List.cons_ne_nil c w
    exact ⟨.digits hnil hdigits, hfull.imp_right fun hall => ⟨.digits hnil hdigits, .inr hall⟩⟩
  · -- It begins with a sign, and only an international number does.
    have hinternational : internationalPhone.MatchesAll (c :: w) := by
      refine hfull.resolve_right fun hall => ?_
      obtain ⟨d, v, hd, hcons⟩ := hall.exists_cons opens_domesticPhone
      obtain ⟨rfl, -⟩ := List.cons.inj hcons
      exact hdigit hd
    have hword : Text.isWord c = false := by
      rw [begins, eq_false_of_ne_true hdigit, Bool.false_or, Bool.or_eq_true, beq_iff_eq,
        beq_iff_eq] at hc
      rcases hc with rfl | rfl <;> decide
    exact ⟨item_of_sign h hinternational hword, .inl hinternational⟩

/-- The earlier rules have nothing to do in a row of such texts, either. -/
theorem foldl_earlierRules_row (h : anonymize text = phoneTag)
    (hall : ∀ t ∈ texts, anonymize t = phoneTag) :
    earlierRules.foldl (fun t r => r.apply t) (text ++ row texts) = text ++ row texts := by
  induction texts generalizing text with
  | nil => rw [row_nil, List.append_nil, foldl_earlierRules h]
  | cons next texts ih =>
    rw [List.forall_mem_cons] at hall
    have hdivides : ∀ r ∈ earlierRules, r.pattern.Divides [' '] := by
      simp only [earlierRules, List.forall_mem_cons]
      exact ⟨divides_singleton (by decide) (by decide),
        divides_singleton (by decide) (by decide), List.forall_mem_nil _⟩
    have hlocal : ∀ r ∈ earlierRules, r.pattern.OnlyBoundaries := fun r hr =>
      onlyBoundaries_rules r (List.mem_append_left [_, _] hr)
    have hparts := foldl_apply_divided hlocal hdivides text (next ++ row texts)
    rw [foldl_earlierRules h, ih hall.1 hall.2] at hparts
    exact hparts

/-- From phone numbers in a row nothing but tags is left. -/
theorem anonymize_row (h : ∀ t ∈ text :: texts, anonymize t = phoneTag)
    (hform : ∀ t ∈ text :: texts, Delimited t) :
    ∃ n ≤ texts.length,
      anonymize (text ++ row texts) = phoneTag ++ row (List.replicate n phoneTag) := by
  have hitems := fun t ht => item_of_anonymize (h t ht) (hform t ht)
  obtain ⟨hitem, hrest⟩ := List.forall_mem_cons.1 fun t ht => (hitems t ht).1
  have hphone : IsTag phoneTag := isTag_rules domesticRule (by simp [rules, domesticRule])
  have hlocal : internationalPhone.OnlyBoundaries ∧ domesticPhone.OnlyBoundaries :=
    ⟨onlyBoundaries_rules internationalRule (by simp [rules, internationalRule]),
      onlyBoundaries_rules domesticRule (by simp [rules, domesticRule])⟩
  obtain ⟨out, outs, hout, hle, hkept⟩ := replaceFrom_row standalone_internationalPhone
    hlocal.1 readsGroups_internationalPhone hphone hitem hrest (b := []) rfl
  -- What the rule for international numbers has kept is matched by the rule for domestic ones.
  have hleft : ∀ o ∈ out :: outs, Item domesticPhone phoneTag o ∧
      (o = phoneTag ∨ domesticPhone.MatchesAll o) := by
    intro o ho
    rcases hkept o ho with rfl | ⟨hmem, hnot⟩
    · exact ⟨.tag, .inl rfl⟩
    · exact (hitems o hmem).2.resolve_left hnot
  obtain ⟨hitem', hrest'⟩ := List.forall_mem_cons.1 fun o ho => (hleft o ho).1
  obtain ⟨last, lasts, hlast, hle', hkept'⟩ := replaceFrom_row standalone_domesticPhone
    hlocal.2 readsGroups_domesticPhone hphone hitem' hrest' (b := []) rfl
  have htags : ∀ o ∈ last :: lasts, o = phoneTag := by
    intro o ho
    rcases hkept' o ho with rfl | ⟨hmem, hnot⟩
    · rfl
    · exact (hleft o hmem).2.resolve_right hnot
  obtain ⟨rfl, hlasts⟩ := List.forall_mem_cons.1 htags
  refine ⟨lasts.length, Nat.le_trans hle' hle, ?_⟩
  have hfirst := foldl_earlierRules_row (List.forall_mem_cons.1 h).1 (List.forall_mem_cons.1 h).2
  calc anonymize (text ++ row texts)
      = domesticPhone.replaceAll phoneTag (internationalPhone.replaceAll phoneTag
          (earlierRules.foldl (fun t r => r.apply t) (text ++ row texts))) := rfl
    _ = domesticPhone.replaceAll phoneTag (out ++ row outs) := by
      rw [hfirst]
      exact congrArg _ hout
    _ = phoneTag ++ row lasts := hlast
    _ = phoneTag ++ row (List.replicate lasts.length phoneTag) := by
      rw [← List.eq_replicate_length.2 hlasts]

theorem toList_intercalate_row (text : String) (texts : List String) :
    (" ".intercalate (text :: texts)).toList = text.toList ++ row (texts.map String.toList) := by
  rw [String.toList_intercalate, List.map_cons]
  exact intercalate_eq_row _ _

theorem anonymizeText_eq_iff {text : String} {tag : List Char} :
    anonymizeText text = String.ofList tag ↔ anonymize text.toList = tag := by
  rw [← String.toList_inj, anonymizeText, String.toList_ofList, String.toList_ofList]

/-- There is no digit in the tag. -/
theorem isDigit_phoneTag : ∀ c ∈ phoneTag, Text.isDigit c = false := by
  have hall : (phoneTag.all fun c => !Text.isDigit c) = true := by decide
  simpa using hall

/-- There is no digit in a row of tags. -/
theorem isDigit_row_phoneTag (n : Nat) :
    ∀ c ∈ row (List.replicate n phoneTag), Text.isDigit c = false := by
  intro c hc
  obtain ⟨t, ht, hc⟩ := List.mem_flatMap.1 hc
  rw [List.eq_of_mem_replicate ht] at hc
  rcases List.mem_cons.1 hc with rfl | hc
  · decide
  · exact isDigit_phoneTag c hc

/-- **Phone numbers in a row are removed**, if each of them is either written without spaces and
hyphens or begins with the sign of a country code: nothing is left but tags, at most one for each
number, and no digit. -/
theorem anonymizeText_row (texts : List String)
    (h : ∀ t ∈ texts, anonymizeText t = "<phone>") (hform : ∀ t ∈ texts, Delimited t.toList) :
    (∃ n ≤ texts.length, anonymizeText (" ".intercalate texts) =
      " ".intercalate (List.replicate n "<phone>")) ∧
    ∀ c ∈ (anonymizeText (" ".intercalate texts)).toList, Text.isDigit c = false := by
  cases texts with
  | nil =>
    have hempty : anonymizeText (" ".intercalate []) = "" := by decide +kernel
    rw [hempty]
    exact ⟨⟨0, Nat.zero_le _, rfl⟩, List.forall_mem_nil _⟩
  | cons text texts =>
    have hlists : ∀ t ∈ text.toList :: texts.map String.toList,
        anonymize t = phoneTag ∧ Delimited t := by
      rw [← List.map_cons, List.forall_mem_map]
      exact fun t ht => ⟨anonymizeText_eq_iff.1 (h t ht), hform t ht⟩
    obtain ⟨n, hle, hrow⟩ := anonymize_row (fun t ht => (hlists t ht).1) fun t ht => (hlists t ht).2
    have hresult : (anonymizeText (" ".intercalate (text :: texts))).toList =
        phoneTag ++ row (List.replicate n phoneTag) := by
      rw [anonymizeText, String.toList_ofList, toList_intercalate_row, hrow]
    refine ⟨⟨n + 1, ?_, ?_⟩, ?_⟩
    · rw [List.length_map] at hle
      exact Nat.succ_le_succ hle
    · -- One tag for the first number, and those of the row behind it.
      rw [← String.toList_inj, hresult, List.replicate_succ, toList_intercalate_row,
        List.map_replicate]
      rfl
    · rw [hresult, List.forall_mem_append]
      exact ⟨isDigit_phoneTag, isDigit_row_phoneTag n⟩

/-- Three numbers in a row, the last two of which are read as one. -/
theorem anonymizeText_row_three :
    anonymizeText (" ".intercalate ["+358 50 1234567", "+1234567", "05012345"]) =
        "<phone> <phone>" ∧
      ∀ c ∈ (anonymizeText (" ".intercalate ["+358 50 1234567", "+1234567", "05012345"])).toList,
        Text.isDigit c = false :=
  ⟨by decide +kernel, (anonymizeText_row _ (by decide +kernel) (by decide)).2⟩

/-- Where the numbers are written in groups, what is left of one of them may stay: the match that
begins with the first number ends behind the first group of the second one. -/
theorem anonymizeText_rest_of_number : ¬ ∀ texts : List String,
    (∀ t ∈ texts, anonymizeText t = "<phone>") →
      ∀ c ∈ (anonymizeText (" ".intercalate texts)).toList, Text.isDigit c = false := by
  intro h
  have hresult : anonymizeText (" ".intercalate ["+358 50 1234567", "050 1234567"]) =
      "<phone> 1234567" := by decide +kernel
  have hdigits := h ["+358 50 1234567", "050 1234567"] (by decide +kernel) '7'
  rw [hresult] at hdigits
  exact absurd (hdigits (by decide)) (by decide)

end Privacy

end DialogueStore
