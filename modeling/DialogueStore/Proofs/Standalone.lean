/-
Patterns that match what stands by itself.

Whether a pattern matches somewhere can depend on the text before and after it, and
with word boundaries it depends on the two nearest characters only
(`Pattern.Matches.inside`).  A pattern is standalone if what it matches never begins
or ends inside a word, and if it matches a text wherever the text stands by itself
(`Privacy.Standalone`).

* `Privacy.Standalone.bounded`, `Privacy.Standalone.marked` — the two ways to be
  standalone: a boundary in front, or a first sign that belongs to no word,
* `Privacy.standalone_rules` — all rules of anonymization are standalone.

Design notes: nothing here looks into the order in which matches are preferred.
The rules are known by what they match and by where they match it.
-/
import DialogueStore.Privacy.Rules
import DialogueStore.Proofs.Matching

namespace DialogueStore

/-! ### Classes of characters -/

namespace Text

theorem Ranges.exists_of_contains {rs : Ranges} {n : Nat} (h : rs.contains n = true) :
    ∃ r ∈ rs, r.1 ≤ n ∧ n ≤ r.2 := by
  induction rs with
  | nil => cases h
  | cons r rest ih =>
    obtain ⟨lo, hi⟩ := r
    simp only [contains, Bool.and_eq_true, Bool.or_eq_true, decide_eq_true_eq] at h
    rcases h with ⟨hlo, hhi | h⟩
    · exact ⟨(lo, hi), List.mem_cons_self, hlo, hhi⟩
    · obtain ⟨r, hr, hn⟩ := ih h
      exact ⟨r, List.mem_cons_of_mem _ hr, hn⟩

/-- In a class whose ranges are in order, a character of any range is found. -/
theorem Ranges.contains_of_mem {rs : Ranges} {n : Nat} {r : Nat × Nat}
    (hs : rs.Pairwise fun r s => r.1 ≤ s.1) (hr : r ∈ rs) (hlo : r.1 ≤ n) (hhi : n ≤ r.2) :
    rs.contains n = true := by
  induction rs with
  | nil => cases hr
  | cons s rest ih =>
    obtain ⟨lo, hi⟩ := s
    obtain ⟨hfirst, hrest⟩ := List.pairwise_cons.1 hs
    simp only [contains, Bool.and_eq_true, Bool.or_eq_true, decide_eq_true_eq]
    rcases List.mem_cons.1 hr with rfl | hr
    · exact ⟨hlo, .inl hhi⟩
    · exact ⟨Nat.le_trans (hfirst r hr) hlo, .inr (ih hrest hr)⟩

/-- Each range of one class lies in a range of another one. -/
def Ranges.within (rs ss : Ranges) : Bool :=
  rs.all fun r => ss.any fun s => s.1.ble r.1 && r.2.ble s.2

theorem Ranges.contains_of_within {rs ss : Ranges} {n : Nat}
    (hs : ss.Pairwise fun r s => r.1 ≤ s.1) (hwithin : rs.within ss = true)
    (h : rs.contains n = true) : ss.contains n = true := by
  obtain ⟨r, hr, hlo, hhi⟩ := exists_of_contains h
  obtain ⟨s, hs', hrs⟩ := List.any_eq_true.1 (List.all_eq_true.1 hwithin r hr)
  simp only [Bool.and_eq_true, Nat.ble_eq] at hrs
  exact contains_of_mem hs hs' (Nat.le_trans hrs.1 hlo) (Nat.le_trans hhi hrs.2)

theorem wordRanges_ordered : wordRanges.Pairwise fun r s => r.1 ≤ s.1 := by
  have h : wordRanges.IsChain fun r s => r.1 ≤ s.1 := by decide +kernel
  exact h.pairwise

/-- All digits are word characters. -/
theorem isWord_of_isDigit {c : Char} (h : isDigit c = true) : isWord c = true :=
  Ranges.contains_of_within wordRanges_ordered (by decide +kernel) h

/-- The class of one character. -/
theorem eq_of_contains_char {c d : Char}
    (h : Ranges.contains [(c.toNat, c.toNat)] d.toNat = true) : d = c := by
  obtain ⟨r, hr, hlo, hhi⟩ := Ranges.exists_of_contains h
  obtain rfl := List.mem_singleton.1 hr
  exact Char.toNat_inj.1 (Nat.le_antisymm hhi hlo)

end Text

open Anchor (headIs)

/-! ### Matches in other surroundings -/

namespace Place

variable {s t u : Place} {v w b a b' a' : List Char}

/-- A place of a text inside a longer text. -/
def inside (s : Place) (b a : List Char) : Place := ⟨s.before ++ b, s.after ++ a⟩

theorem inside_inj : s.inside b a = t.inside b a ↔ s = t := by
  constructor
  · intro h
    obtain ⟨hbefore, hafter⟩ := Place.mk.inj h
    obtain ⟨before, after⟩ := s
    obtain ⟨before', after'⟩ := t
    rw [Place.mk.injEq]
    exact ⟨List.append_cancel_right hbefore, List.append_cancel_right hafter⟩
  · rintro rfl
    rfl

theorem reads_inside : (s.inside b a).Reads w (t.inside b a) ↔ s.Reads w t := by
  constructor
  · rintro ⟨hafter, hbefore⟩
    simp only [inside, ← List.append_assoc, List.append_left_inj] at hafter hbefore
    exact ⟨hafter, hbefore⟩
  · rintro ⟨hafter, hbefore⟩
    refine ⟨?_, ?_⟩
    · simp only [inside, hafter, List.append_assoc]
    · simp only [inside, hbefore, List.append_assoc]

/-- Who goes from one place of the inner text to another one stays inside. -/
theorem exists_inside (h : (s.inside b a).Reads v u) (h' : u.Reads w (t.inside b a)) :
    ∃ u' : Place, u = u'.inside b a ∧ s.Reads v u' ∧ u'.Reads w t := by
  obtain ⟨before, after⟩ := u
  obtain rfl : before = v.reverse ++ (s.before ++ b) := h.before
  obtain rfl : after = w ++ (t.after ++ a) := h'.after
  have hu : (⟨v.reverse ++ (s.before ++ b), w ++ (t.after ++ a)⟩ : Place) =
      (⟨v.reverse ++ s.before, w ++ t.after⟩ : Place).inside b a := by
    simp only [inside, List.append_assoc]
  rw [hu] at h h'
  exact ⟨_, hu, reads_inside.1 h, reads_inside.1 h'⟩

theorem Reads.before_eq_nil (h : s.Reads w t) (ht : t.before = []) : s.before = [] := by
  rw [h.before] at ht
  exact (List.append_eq_nil_iff.1 ht).2

theorem Reads.after_eq_nil (h : s.Reads w t) (hs : s.after = []) : t.after = [] := by
  rw [h.after] at hs
  exact (List.append_eq_nil_iff.1 hs).2

/-- What is read between two places is one text. -/
theorem Reads.unique (h : s.Reads v t) (h' : s.Reads w t) : v = w :=
  List.append_cancel_right (h.after.symm.trans h'.after)

end Place

namespace Pattern

variable {p q r : Pattern} {s t u : Place} {w b a b' a' : List Char} {n : Nat}

/-- Word boundaries are all that a pattern asks of the text around it. -/
def OnlyBoundaries : Pattern → Prop
  | .empty => True
  | .one _ => True
  | .anchor k => k = .wordBoundary Text.isWord
  | .seq p q => p.OnlyBoundaries ∧ q.OnlyBoundaries
  | .alt p q => p.OnlyBoundaries ∧ q.OnlyBoundaries
  | .repeat _ _ _ p => p.OnlyBoundaries

theorem headIs_append {k : Char → Bool} {v : List Char}
    (h : v = [] → headIs k b = headIs k b') : headIs k (v ++ b) = headIs k (v ++ b') := by
  cases v with
  | nil => exact h rfl
  | cons c rest => rfl

/-- A number of matches in a row can be moved if each match can be. -/
theorem Times.inside
    (hp : ∀ {s t : Place}, (s.before = [] → headIs Text.isWord b = headIs Text.isWord b') →
      (t.after = [] → headIs Text.isWord a = headIs Text.isWord a') →
      p.Matches (s.inside b a) (t.inside b a) → p.Matches (s.inside b' a') (t.inside b' a'))
    (hb : s.before = [] → headIs Text.isWord b = headIs Text.isWord b')
    (ha : t.after = [] → headIs Text.isWord a = headIs Text.isWord a')
    (h : Times p n (s.inside b a) (t.inside b a)) :
    Times p n (s.inside b' a') (t.inside b' a') := by
  induction n generalizing s with
  | zero =>
    rw [times_zero, Place.inside_inj] at h
    subst h
    exact .zero p _
  | succ n ih =>
    obtain ⟨u, hu, h⟩ := times_succ.1 h
    obtain ⟨v, hv⟩ := hu.reads
    obtain ⟨w, hw⟩ := h.reads Matches.reads
    -- The place between two steps lies inside as well.
    obtain ⟨u, rfl, hsu, hut⟩ := Place.exists_inside hv hw
    exact .succ (hp hb (fun hnil => ha (hut.after_eq_nil hnil)) hu)
      (ih (fun hnil => hb (hsu.before_eq_nil hnil)) h)

/-- **A match stays a match in other surroundings**, if the characters next to the text are word
characters or not as they were.  They matter only where the text begins or ends. -/
theorem Matches.inside (hlocal : p.OnlyBoundaries)
    (hb : s.before = [] → headIs Text.isWord b = headIs Text.isWord b')
    (ha : t.after = [] → headIs Text.isWord a = headIs Text.isWord a')
    (h : p.Matches (s.inside b a) (t.inside b a)) :
    p.Matches (s.inside b' a') (t.inside b' a') := by
  induction p generalizing s t with
  | empty =>
    rw [matches_empty, Place.inside_inj] at h
    rw [matches_empty, h]
  | one set =>
    obtain ⟨c, hc, hread⟩ := matches_one.1 h
    exact matches_one.2 ⟨c, hc, Place.reads_inside.2 (Place.reads_inside.1 hread)⟩
  | anchor k =>
    obtain rfl : k = .wordBoundary Text.isWord := hlocal
    rw [matches_anchor, Place.inside_inj] at h
    obtain ⟨hholds, rfl⟩ := h
    refine matches_anchor.2 ⟨?_, rfl⟩
    -- A boundary looks at one character on either side, and at the surroundings only at an end.
    simp only [Anchor.holds, Place.inside] at hholds ⊢
    rw [← headIs_append hb, ← headIs_append ha]
    exact hholds
  | seq p q ihp ihq =>
    obtain ⟨u, hp, hq⟩ := matches_seq.1 h
    obtain ⟨v, hv⟩ := hp.reads
    obtain ⟨w, hw⟩ := hq.reads
    obtain ⟨u, rfl, hsu, hut⟩ := Place.exists_inside hv hw
    -- If nothing is before the place between the two parts, nothing is before the first one.
    exact .seq (ihp hlocal.1 hb (fun hnil => ha (hut.after_eq_nil hnil)) hp)
      (ihq hlocal.2 (fun hnil => hb (hsu.before_eq_nil hnil)) ha hq)
  | alt p q ihp ihq =>
    rcases matches_alt.1 h with h | h
    · exact .left (ihp hlocal.1 hb ha h)
    · exact .right (ihq hlocal.2 hb ha h)
  | «repeat» m limit greedy p ih =>
    obtain ⟨n, hmin, hmax, h⟩ := matches_repeat.1 h
    exact matches_repeat.2 ⟨n, hmin, hmax, h.inside (ih hlocal) hb ha⟩

/-! ### The first and the last character of a match -/

theorem exists_succ_of_repeat {m : Nat} {limit : Option Nat} {greedy : Bool} (hm : 0 < m)
    (h : Matches (.repeat m limit greedy p) s t) : ∃ n, Times p (n + 1) s t := by
  obtain ⟨_ | n, hn, -, h⟩ := matches_repeat.1 h
  · omega
  · exact ⟨n, h⟩

/-- All matches begin with a character of a class. -/
def Opens (k : Char → Bool) (p : Pattern) : Prop :=
  ∀ ⦃s t⦄, p.Matches s t → ∃ c w, k c = true ∧ s.Reads (c :: w) t

namespace Opens

variable {k l : Char → Bool}

theorem one {set : Text.Ranges} (h : ∀ c, set.contains c.toNat = true → k c = true) :
    Opens k (.one set) := by
  intro s t hm
  obtain ⟨c, hc, hread⟩ := matches_one.1 hm
  exact ⟨c, [], h c hc, hread⟩

theorem seq (h : Opens k p) (q : Pattern) : Opens k (.seq p q) := by
  intro s t hm
  obtain ⟨u, hp, hq⟩ := matches_seq.1 hm
  obtain ⟨c, v, hc, hv⟩ := h hp
  obtain ⟨w, hw⟩ := hq.reads
  exact ⟨c, v ++ w, hc, hv.trans hw⟩

theorem anchor_seq (h : Opens k q) (x : Anchor) : Opens k (.seq (.anchor x) q) := by
  intro s t hm
  obtain ⟨u, hp, hq⟩ := matches_seq.1 hm
  obtain ⟨-, rfl⟩ := matches_anchor.1 hp
  exact h hq

theorem «repeat» (h : Opens k p) {m : Nat} (hm : 0 < m) (limit : Option Nat) (greedy : Bool) :
    Opens k (.repeat m limit greedy p) := by
  intro s t hr
  obtain ⟨n, hn⟩ := exists_succ_of_repeat hm hr
  obtain ⟨u, hp, hrest⟩ := times_succ.1 hn
  obtain ⟨c, v, hc, hv⟩ := h hp
  obtain ⟨w, hw⟩ := hrest.reads Matches.reads
  exact ⟨c, v ++ w, hc, hv.trans hw⟩

theorem mono (h : Opens k p) (hkl : ∀ c, k c = true → l c = true) : Opens l p := by
  intro s t hm
  obtain ⟨c, w, hc, hw⟩ := h hm
  exact ⟨c, w, hkl c hc, hw⟩

end Opens

/-- Behind all matches the last character before the place is one of a class. -/
def Closes (k : Char → Bool) (p : Pattern) : Prop :=
  ∀ ⦃s t⦄, p.Matches s t → headIs k t.before = true

namespace Closes

variable {k : Char → Bool}

theorem one {set : Text.Ranges} (h : ∀ c, set.contains c.toNat = true → k c = true) :
    Closes k (.one set) := by
  intro s t hm
  obtain ⟨c, hc, hread⟩ := matches_one.1 hm
  rw [hread.before]
  exact h c hc

theorem seq (h : Closes k q) (p : Pattern) : Closes k (.seq p q) := by
  intro s t hm
  obtain ⟨u, -, hq⟩ := matches_seq.1 hm
  exact h hq

theorem times (h : Closes k p) (ht : Times p (n + 1) s t) : headIs k t.before = true := by
  induction n generalizing s with
  | zero =>
    obtain ⟨u, hp, hrest⟩ := times_succ.1 ht
    obtain rfl := times_zero.1 hrest
    exact h hp
  | succ n ih =>
    obtain ⟨u, -, hrest⟩ := times_succ.1 ht
    exact ih hrest

theorem «repeat» (h : Closes k p) {m : Nat} (hm : 0 < m) (limit : Option Nat) (greedy : Bool) :
    Closes k (.repeat m limit greedy p) := by
  intro s t hr
  obtain ⟨n, hn⟩ := exists_succ_of_repeat hm hr
  exact h.times hn

end Closes

/-- All matches end where a word ends. -/
def EndsWord (p : Pattern) : Prop :=
  ∀ ⦃s t⦄, p.Matches s t →
    headIs Text.isWord t.before = true ∧ headIs Text.isWord t.after = false

/-- A boundary after a word character is the end of a word. -/
theorem EndsWord.boundary (h : Closes Text.isWord p) : EndsWord (.seq p Privacy.boundary) := by
  intro s t hm
  obtain ⟨u, hp, hb⟩ := matches_seq.1 hm
  obtain ⟨hholds, rfl⟩ := matches_anchor.1 hb
  have hword := h hp
  refine ⟨hword, ?_⟩
  simpa [Anchor.holds, hword] using hholds

theorem EndsWord.seq (h : EndsWord q) (p : Pattern) : EndsWord (.seq p q) := by
  intro s t hm
  obtain ⟨u, -, hq⟩ := matches_seq.1 hm
  exact h hq

/-! ### Characters that no match reads -/

/-- Whether a character can be part of a match. -/
def mentions (d : Char) : Pattern → Bool
  | .empty => false
  | .one set => set.contains d.toNat
  | .anchor _ => false
  | .seq p q => p.mentions d || q.mentions d
  | .alt p q => p.mentions d || q.mentions d
  | .repeat _ _ _ p => p.mentions d

theorem Times.not_mem {d : Char} (hp : ∀ {s t : Place} {w}, p.Matches s t → s.Reads w t → d ∉ w)
    (h : Times p n s t) (hw : s.Reads w t) : d ∉ w := by
  induction n generalizing s w with
  | zero =>
    obtain rfl := times_zero.1 h
    rw [hw.unique (.refl t)]
    exact List.not_mem_nil
  | succ n ih =>
    obtain ⟨u, hu, hrest⟩ := times_succ.1 h
    obtain ⟨v, hv⟩ := hu.reads
    obtain ⟨v', hv'⟩ := hrest.reads Matches.reads
    rw [hw.unique (hv.trans hv'), List.mem_append]
    exact not_or.2 ⟨hp hu hv, ih hrest hv'⟩

/-- Matches read what their pattern mentions. -/
theorem Matches.not_mem {d : Char} (hd : p.mentions d = false) (h : p.Matches s t)
    (hw : s.Reads w t) : d ∉ w := by
  induction p generalizing s t w with
  | empty =>
    obtain rfl := matches_empty.1 h
    rw [hw.unique (.refl t)]
    exact List.not_mem_nil
  | one set =>
    obtain ⟨c, hc, hread⟩ := matches_one.1 h
    rw [hw.unique hread, List.mem_singleton]
    -- A set that holds the character mentions it.
    rintro rfl
    exact Bool.false_ne_true (hd.symm.trans hc)
  | anchor k =>
    obtain ⟨-, rfl⟩ := matches_anchor.1 h
    rw [hw.unique (.refl t)]
    exact List.not_mem_nil
  | seq p q ihp ihq =>
    obtain ⟨hdp, hdq⟩ := Bool.or_eq_false_iff.1 hd
    obtain ⟨u, hp, hq⟩ := matches_seq.1 h
    obtain ⟨v, hv⟩ := hp.reads
    obtain ⟨v', hv'⟩ := hq.reads
    rw [hw.unique (hv.trans hv'), List.mem_append]
    exact not_or.2 ⟨ihp hdp hp hv, ihq hdq hq hv'⟩
  | alt p q ihp ihq =>
    obtain ⟨hdp, hdq⟩ := Bool.or_eq_false_iff.1 hd
    rcases matches_alt.1 h with h | h
    · exact ihp hdp h hw
    · exact ihq hdq h hw
  | «repeat» m limit greedy p ih =>
    obtain ⟨n, -, -, h⟩ := matches_repeat.1 h
    exact h.not_mem (ih hd) hw

/-! ### Sequences and alternatives -/

theorem matches_seq_seq : Matches (.seq (.seq p q) r) s t ↔ Matches (.seq p (.seq q r)) s t := by
  simp only [matches_seq]
  constructor
  · rintro ⟨v, ⟨u, hp, hq⟩, hr⟩
    exact ⟨u, hp, v, hq, hr⟩
  · rintro ⟨u, hp, v, hq, hr⟩
    exact ⟨v, ⟨u, hp, hq⟩, hr⟩

theorem matches_alt_seq :
    Matches (.seq (.alt p q) r) s t ↔ Matches (.alt (.seq p r) (.seq q r)) s t := by
  simp only [matches_seq, matches_alt, or_and_right, exists_or]

end Pattern

/-! ### Standalone patterns -/

namespace Privacy

open Pattern

variable {p q : Pattern}

/-- The characters with which a sensitive piece of a text can begin. -/
def begins (c : Char) : Bool := Text.isDigit c || c == '+' || c == '('

/-- A pattern is standalone if its matches are sensitive pieces that stand by themselves, and are
matches wherever they do. -/
structure Standalone (p : Pattern) : Prop where
  opens : Opens begins p
  starts : ∀ ⦃s t⦄, p.Matches s t →
    headIs Text.isWord s.before = false ∨ headIs Text.isWord s.after = false
  ends : EndsWord p
  /-- No match reads the first character of a tag. -/
  untagged : p.mentions '<' = false
  anywhere : ∀ ⦃w b a b' a'⦄, p.Matches ⟨b, w ++ a⟩ ⟨w.reverse ++ b, a⟩ →
    (headIs Text.isWord b' = false ∨ headIs Text.isWord w = false) →
    headIs Text.isWord a' = false → p.Matches ⟨b', w ++ a'⟩ ⟨w.reverse ++ b', a'⟩

namespace Standalone

/-- A boundary and then a digit. -/
theorem bounded (hlocal : q.OnlyBoundaries) (hopens : Opens Text.isDigit q) (hends : EndsWord q)
    (huntagged : q.mentions '<' = false) : Standalone (.seq boundary q) := by
  have hstarts : ∀ ⦃s t⦄, Matches (.seq boundary q) s t →
      headIs Text.isWord s.before = false ∧ headIs Text.isWord s.after = true := by
    intro s t h
    obtain ⟨u, hb, hq⟩ := matches_seq.1 h
    obtain ⟨hholds, rfl⟩ := matches_anchor.1 hb
    obtain ⟨c, w, hc, hread⟩ := hopens hq
    have hword : headIs Text.isWord u.after = true := by
      rw [hread.after]
      exact Text.isWord_of_isDigit hc
    refine ⟨?_, hword⟩
    simpa [Anchor.holds, hword] using hholds
  refine ⟨?_, fun s t h => .inl (hstarts h).1, hends.seq _, huntagged, ?_⟩
  · refine (hopens.anchor_seq _).mono ?_
    intro c hc
    rw [begins, hc]
    rfl
  · intro w b a b' a' h hb' ha'
    obtain ⟨hb, hafter⟩ := hstarts h
    -- The match begins with a digit, so what is before it elsewhere is no word character.
    have hw : headIs Text.isWord w = true := by
      obtain ⟨c, v, hc, hread⟩ := (hopens.anchor_seq _) h
      obtain rfl : w = c :: v := List.append_cancel_right hread.after
      exact Text.isWord_of_isDigit hc
    have hb' : headIs Text.isWord b' = false := hb'.resolve_right (by rw [hw]; decide)
    refine Matches.inside (p := .seq boundary q) (s := ⟨[], w⟩) (t := ⟨w.reverse, []⟩)
      ⟨rfl, hlocal⟩ ?_ ?_ h
    · rw [hb, hb']
      exact fun _ => rfl
    · rw [(hends.seq _ h).2, ha']
      exact fun _ => rfl

/-- A sign that belongs to no word, and what comes after it. -/
theorem marked {set : Text.Ranges} (hlocal : q.OnlyBoundaries)
    (hset : ∀ c : Char, set.contains c.toNat = true → begins c = true ∧ Text.isWord c = false)
    (hends : EndsWord q) (huntagged : mentions '<' (.seq (.one set) q) = false) :
    Standalone (.seq (.one set) q) := by
  refine ⟨(Opens.one fun c hc => (hset c hc).1).seq q, ?_, hends.seq _, huntagged, ?_⟩
  · intro s t h
    obtain ⟨u, hone, -⟩ := matches_seq.1 h
    obtain ⟨c, hc, hread⟩ := matches_one.1 hone
    rw [hread.after]
    exact .inr (hset c hc).2
  · intro w b a b' a' h _ ha'
    -- What comes after the sign has the sign before it, here and elsewhere.
    have ha : headIs Text.isWord a = false := (hends.seq _ h).2
    obtain ⟨⟨before, after⟩, hone, hq⟩ := matches_seq.1 h
    obtain ⟨c, hc, hread⟩ := matches_one.1 hone
    obtain ⟨v, hv⟩ := hq.reads
    obtain rfl : after = v ++ a := hv.after
    obtain rfl : before = c :: b := hread.before
    obtain rfl : w = c :: v := List.append_cancel_right hread.after
    have hrest : q.Matches ((⟨[c], v⟩ : Place).inside b' a')
        ((⟨v.reverse ++ [c], []⟩ : Place).inside b' a') := by
      refine Matches.inside (b := b) (a := a) hlocal ?_ ?_ ?_
      · exact fun hnil => absurd hnil (List.cons_ne_nil c [])
      · rw [ha, ha']
        exact fun _ => rfl
      · simpa [Place.inside] using hq
    refine matches_seq.2 ⟨⟨c :: b', v ++ a'⟩, .one hc, ?_⟩
    simpa [Place.inside] using hrest

theorem alt (hp : Standalone p) (hq : Standalone q) : Standalone (.alt p q) := by
  refine ⟨?_, ?_, ?_, ?_, ?_⟩
  · intro s t h
    exact (matches_alt.1 h).elim (@hp.opens s t) (@hq.opens s t)
  · intro s t h
    exact (matches_alt.1 h).elim (@hp.starts s t) (@hq.starts s t)
  · intro s t h
    exact (matches_alt.1 h).elim (@hp.ends s t) (@hq.ends s t)
  · rw [mentions, hp.untagged, hq.untagged]
    rfl
  · intro w b a b' a' h hb' ha'
    exact (matches_alt.1 h).imp (fun h => hp.anywhere h hb' ha') (fun h => hq.anywhere h hb' ha')
      |> matches_alt.2

/-- Being standalone is a matter of what is matched. -/
theorem congr (hp : Standalone p) (h : ∀ s t, q.Matches s t ↔ p.Matches s t)
    (huntagged : q.mentions '<' = false) : Standalone q := by
  refine ⟨fun s t hm => hp.opens ((h s t).1 hm), fun s t hm => hp.starts ((h s t).1 hm),
    fun s t hm => hp.ends ((h s t).1 hm), huntagged, ?_⟩
  intro w b a b' a' hm hb' ha'
  exact (h _ _).2 (hp.anywhere ((h _ _).1 hm) hb' ha')

end Standalone

/-! ### The rules of anonymization -/

theorem opens_digits {m : Nat} (hm : 0 < m) (limit : Option Nat) :
    Opens Text.isDigit (.repeat m limit true digit) :=
  (Opens.one fun _ h => h).repeat hm limit true

theorem opens_zero : Opens Text.isDigit (char '0') := by
  refine Opens.one fun c h => ?_
  rw [Text.eq_of_contains_char h]
  decide

theorem closes_digits {m : Nat} (hm : 0 < m) (limit : Option Nat) :
    Closes Text.isWord (.repeat m limit true digit) :=
  (Closes.one fun _ h => Text.isWord_of_isDigit h).repeat hm limit true

/-- The check characters are word characters. -/
theorem closes_checkSigns : Closes Text.isWord (.one checkSigns) :=
  .one fun _ h => Text.Ranges.contains_of_within Text.wordRanges_ordered (by decide +kernel) h

/-- A number of digits, with spaces and hyphens between them, up to a boundary. -/
theorem endsWord_phoneDigits {m : Nat} (n : Nat) (hm : 0 < m) :
    EndsWord (.seq (between m n phoneDigit) boundary) :=
  .boundary (((Closes.one fun _ h => Text.isWord_of_isDigit h).seq _).repeat hm _ _)

theorem standalone_identityCode : Standalone identityCode := by
  refine .bounded ?_ ((opens_digits (by decide) _).seq _) ?_ (by decide +kernel)
  · simp [Pattern.sequence, exactly, digit, boundary, OnlyBoundaries]
  · exact (((EndsWord.boundary closes_checkSigns).seq _).seq _).seq _

theorem standalone_ipv4Address : Standalone ipv4Address := by
  refine .bounded ?_ ?_ ?_ (by decide +kernel)
  · simp [Pattern.sequence, exactly, between, digit, boundary, char, OnlyBoundaries]
  · exact (((opens_digits (by decide) _).seq _).repeat (by decide) _ _).seq _
  · exact (EndsWord.boundary (closes_digits (by decide) _)).seq _

/-- One sign, such as the plus or the bracket of a country code, and what comes after it. -/
theorem marked_char {c : Char} (hc : begins c = true ∧ Text.isWord c = false)
    (hlocal : q.OnlyBoundaries) (hends : EndsWord q)
    (huntagged : mentions '<' (.seq (char c) q) = false) : Standalone (.seq (char c) q) := by
  refine .marked hlocal ?_ hends huntagged
  intro d hd
  rwa [Text.eq_of_contains_char hd]

/-- An international number by its three forms of a country code. -/
theorem standalone_internationalPhone : Standalone internationalPhone := by
  have hends := endsWord_phoneDigits 12 (m := 6) (by decide)
  have hbracket : Standalone (.seq (char '(') (.seq
      (Pattern.sequence [char '+', between 1 3 digit, char ')'])
      (.seq (between 6 12 phoneDigit) boundary))) := by
    refine marked_char (by decide +kernel) ?_ (hends.seq _) (by decide +kernel)
    simp [Pattern.sequence, between, Pattern.optional, phoneDigit, digit, boundary, char,
      OnlyBoundaries]
  have hplus : Standalone (.seq (char '+') (.seq (between 1 3 digit)
      (.seq (between 6 12 phoneDigit) boundary))) := by
    refine marked_char (by decide +kernel) ?_ (hends.seq _) (by decide +kernel)
    simp [between, Pattern.optional, phoneDigit, digit, boundary, OnlyBoundaries]
  have hzeros : Standalone (.seq boundary (.seq
      (Pattern.sequence [char '0', char '0', between 1 3 digit])
      (.seq (between 6 12 phoneDigit) boundary))) := by
    refine .bounded ?_ ((opens_zero.seq _).seq _) (hends.seq _) (by decide +kernel)
    simp [Pattern.sequence, between, Pattern.optional, phoneDigit, digit, boundary, char,
      OnlyBoundaries]
  -- The three ways to write the country code, with the alternative pulled out in front.
  refine (hbracket.alt (hplus.alt hzeros)).congr ?_ (by decide +kernel)
  intro s t
  simp only [internationalPhone, countryCode, Pattern.sequence, matches_alt_seq, matches_alt,
    matches_seq_seq]

theorem standalone_domesticPhone : Standalone domesticPhone := by
  refine .bounded ?_ (opens_zero.seq _) ?_ (by decide +kernel)
  · simp [Pattern.sequence, exactly, between, Pattern.optional, phoneDigit, digit, boundary, char,
      OnlyBoundaries]
  · exact ((endsWord_phoneDigits 8 (by decide)).seq _).seq _

/-- **All rules of anonymization are standalone.** -/
theorem standalone_rules : ∀ r ∈ rules, Standalone r.pattern := by
  simp only [rules, List.forall_mem_cons]
  exact ⟨standalone_identityCode, standalone_ipv4Address, standalone_internationalPhone,
    standalone_domesticPhone, List.forall_mem_nil _⟩

end Privacy

end DialogueStore
