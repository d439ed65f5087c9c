/-
The parts of a text are anonymized apart from each other.

Where a text stands inside a longer one, a pattern may match on into what comes behind
it, and it may see other characters at the two ends.  If it asks for word boundaries
only, and no word stands next to the text, the ways to match the text are the same and
are preferred in the same order, but for those that lead beyond it
(`Pattern.inner_ends`).  If the pattern does not read the next character, nothing leads
beyond it, and so replacing stops at such a character and begins anew behind it
(`Pattern.replaceAll_divided`).

* `Pattern.Divides` — what keeps the parts of a text apart: a sign that is in no match,
  or a tag,
* `Privacy.anonymize_divided` — all rules together treat the parts one by one,
* `Privacy.anonymizeText_local` — the same for a character, such as a comma or the end
  of a line, and for any number of parts.

Design notes: that the same is matched is not enough here (`Pattern.Matches.inside`),
since what is replaced is the preferred match.  So the lists of ends are compared.
-/
import DialogueStore.Proofs.Redaction

namespace DialogueStore

open Anchor (headIs)

open Privacy (Standalone)

namespace Pattern

variable {p : Pattern} {s t : Place} {b a g tag w : List Char} {c : Char}

/-! ### Matching inside a longer text -/

/-- Leaving out what leads nowhere changes nothing. -/
theorem flatMap_filter_of_nil {α β : Type} {l : List α} {f : α → List β} {keep : α → Bool}
    (h : ∀ x ∈ l, keep x = false → f x = []) : (l.filter keep).flatMap f = l.flatMap f := by
  induction l with
  | nil => rfl
  | cons x l ih =>
    have ih := ih fun y hy => h y (List.mem_cons_of_mem x hy)
    cases hx : keep x with
    | true => rw [List.filter_cons_of_pos hx, List.flatMap_cons, List.flatMap_cons, ih]
    | false =>
      rw [List.filter_cons_of_neg (by simp [hx]), List.flatMap_cons, h x List.mem_cons_self hx, ih]
      rfl

/-- A place is not beyond the beginning of the text `a` that comes last. -/
def notBeyond (a : List Char) (t : Place) : Bool := a.length ≤ t.after.length

theorem notBeyond_inside (t : Place) : notBeyond a (t.inside b a) = true := by
  simp [notBeyond, Place.inside]

/-- From a place of a text, a step leads to the same places in the same order when the text stands
between `b` and `a`, but for places in `a`. -/
structure Inner (b a : List Char) (step : Place → List Place) : Prop where
  reads : ∀ ⦃s t⦄, t ∈ step s → ∃ w, s.Reads w t
  inner : ∀ ⦃s⦄, (s.before = [] → headIs Text.isWord b = false) →
    (step (s.inside b a)).filter (notBeyond a) = (step s).map (·.inside b a)

namespace Inner

variable {f f' : Place → List Place}

theorem pure : Inner b a fun s => [s] := by
  refine ⟨fun s t ht => ?_, fun s _ => ?_⟩
  · obtain rfl := List.mem_singleton.1 ht
    exact ⟨[], .refl t⟩
  · rw [List.filter_cons_of_pos (notBeyond_inside s)]
    rfl

theorem append (h : Inner b a f) (h' : Inner b a f') : Inner b a fun s => f s ++ f' s := by
  refine ⟨fun s t ht => ?_, fun s hb => ?_⟩
  · exact (List.mem_append.1 ht).elim (@h.reads s t) (@h'.reads s t)
  · rw [List.filter_append, List.map_append, h.inner hb, h'.inner hb]

theorem bind (h : Inner b a f) (h' : Inner b a f') : Inner b a fun s => (f s).flatMap f' := by
  refine ⟨fun s u hu => ?_, fun s hb => ?_⟩
  · obtain ⟨t, ht, hu⟩ := List.mem_flatMap.1 hu
    obtain ⟨v, hv⟩ := h.reads ht
    obtain ⟨w, hw⟩ := h'.reads hu
    exact ⟨v ++ w, hv.trans hw⟩
  · -- Who has gone beyond the inner text does not come back.
    have hgone : ∀ t ∈ f (s.inside b a), notBeyond a t = false →
        (f' t).filter (notBeyond a) = [] := by
      intro t _ ht
      rw [List.filter_eq_nil_iff]
      intro u hu
      obtain ⟨w, hw⟩ := h'.reads hu
      have hle := hw.length_le
      simp only [notBeyond, decide_eq_false_iff_not, decide_eq_true_eq] at ht ⊢
      omega
    have hinner : ∀ t ∈ f s, (f' (t.inside b a)).filter (notBeyond a) =
        (f' t).map (·.inside b a) := by
      intro t ht
      obtain ⟨w, hw⟩ := h.reads ht
      exact h'.inner fun hnil => hb (hw.before_eq_nil hnil)
    rw [List.filter_flatMap, ← flatMap_filter_of_nil hgone, h.inner hb, List.flatMap_map,
      List.map_flatMap]
    exact List.flatMap_congr hinner

/-- The part of a step that reads on. -/
theorem advancing (h : Inner b a f) :
    Inner b a fun s => (f s).filter fun t => t.after.length < s.after.length := by
  refine ⟨fun s t ht => h.reads (List.mem_filter.1 ht).1, fun s hb => ?_⟩
  have hlength : ∀ t : Place, decide ((t.inside b a).after.length < (s.inside b a).after.length) =
      decide (t.after.length < s.after.length) := by
    intro t
    simp [Place.inside]
  rw [List.filter_comm, h.inner hb, List.filter_map]
  simp only [Function.comp_def, hlength]

theorem upTo (h : Inner b a f) (greedy : Bool) (n : Nat) : Inner b a (upTo f greedy n) := by
  induction n with
  | zero => exact pure
  | succ n ih =>
    cases greedy with
    | true => exact (h.advancing.bind ih).append pure
    | false => exact pure.append (h.advancing.bind ih)

theorem times (h : Inner b a f) (h' : Inner b a f') (n : Nat) : Inner b a (times f f' n) := by
  induction n with
  | zero => exact h'
  | succ n ih => exact h.bind ih

end Inner

/-- At the end of a text there is nothing to repeat. -/
theorem upTo_of_end (step : Place → List Place) (greedy : Bool) (n : Nat)
    (hend : s.after.length = 0) : upTo step greedy n s = [s] := by
  cases n with
  | zero => rfl
  | succ n => simp [upTo, hend]

/-- No more repetitions are of use than there are characters left. -/
theorem upTo_eq_of_le (step : Place → List Place) (greedy : Bool) {m n : Nat}
    (hm : s.after.length ≤ m) (hn : s.after.length ≤ n) :
    upTo step greedy m s = upTo step greedy n s := by
  induction m generalizing s n with
  | zero => rw [upTo_of_end _ _ _ (by omega), upTo_of_end _ _ _ (by omega)]
  | succ m ih =>
    cases n with
    | zero => rw [upTo_of_end _ _ _ (by omega), upTo_of_end _ _ _ (by omega)]
    | succ n =>
      have hlonger : ((step s).filter fun t => t.after.length < s.after.length).flatMap
            (upTo step greedy m) =
          ((step s).filter fun t => t.after.length < s.after.length).flatMap
            (upTo step greedy n) := by
        refine List.flatMap_congr fun t ht => ?_
        have hlt : t.after.length < s.after.length := by simpa using (List.mem_filter.1 ht).2
        exact ih (by omega) (by omega)
      rw [upTo, upTo, hlonger]

/-- A repetition without a limit is one with a limit that depends on the place. -/
theorem Inner.upToEnd {f : Place → List Place} (h : Inner b a f) (greedy : Bool) :
    Inner b a fun s => Pattern.upTo f greedy s.after.length s := by
  refine ⟨fun s t ht => (h.upTo greedy _).reads ht, fun s hb => ?_⟩
  rw [(h.upTo greedy _).inner hb]
  have hmore : s.after.length ≤ (s.inside b a).after.length := by simp [Place.inside]
  rw [upTo_eq_of_le f greedy hmore Nat.le.refl]

/-- **Inside a longer text the ways to match are the same**, in the same order, but for those that
lead beyond the inner text. -/
theorem inner_ends (hlocal : p.OnlyBoundaries) (ha : headIs Text.isWord a = false) :
    Inner b a p.ends := by
  induction p with
  | empty =>
    have hends : ends .empty = fun s => [s] := by
      funext s
      rw [ends]
    exact hends ▸ .pure
  | one set =>
    refine ⟨fun s t ht => ((mem_ends_iff _ s t).1 ht).reads, fun s _ => ?_⟩
    obtain ⟨before, _ | ⟨c, rest⟩⟩ := s
    · -- A character that is read here is one of the text behind.
      have hnone : ends (.one set) ⟨before, []⟩ = [] := by rw [ends]
      rw [hnone, List.map_nil, List.filter_eq_nil_iff]
      intro t ht
      obtain ⟨d, -, hread⟩ := matches_one.1 ((mem_ends_iff _ _ t).1 ht)
      have hlength := hread.length_eq
      simp only [Place.inside, List.nil_append, List.length_cons, List.length_nil] at hlength
      simp only [notBeyond, decide_eq_true_eq]
      omega
    · have hinside : (⟨before, c :: rest⟩ : Place).inside b a =
          ⟨before ++ b, c :: (rest ++ a)⟩ := rfl
      rw [hinside, ends, ends]
      split
      · exact List.filter_cons_of_pos (notBeyond_inside (b := b) ⟨c :: before, rest⟩)
      · rfl
  | anchor k =>
    refine ⟨fun s t ht => ((mem_ends_iff _ s t).1 ht).reads, fun s hb => ?_⟩
    obtain rfl : k = .wordBoundary Text.isWord := hlocal
    -- A word boundary looks at one character on either side, and the text around agrees there.
    have hholds : (Anchor.wordBoundary Text.isWord).holds (s.inside b a) =
        (Anchor.wordBoundary Text.isWord).holds s := by
      have hbefore : headIs Text.isWord (s.before ++ b) = headIs Text.isWord (s.before ++ []) :=
        headIs_append hb
      have hafter : headIs Text.isWord (s.after ++ a) = headIs Text.isWord (s.after ++ []) :=
        headIs_append fun _ => ha
      rw [List.append_nil] at hbefore hafter
      rw [Anchor.holds, Anchor.holds, ← hbefore, ← hafter]
      rfl
    rw [ends, ends, hholds]
    split
    · exact List.filter_cons_of_pos (notBeyond_inside s)
    · rfl
  | seq p q ihp ihq =>
    have hends : ends (.seq p q) = fun s => (ends p s).flatMap (ends q) := by
      funext s
      rw [ends]
    exact hends ▸ (ihp hlocal.1).bind (ihq hlocal.2)
  | alt p q ihp ihq =>
    have hends : ends (.alt p q) = fun s => ends p s ++ ends q s := by
      funext s
      rw [ends]
    exact hends ▸ (ihp hlocal.1).append (ihq hlocal.2)
  | «repeat» m limit greedy p ih =>
    have hstep := ih hlocal
    cases limit with
    | none =>
      have hends : ends (.repeat m none greedy p) =
          times (ends p) (fun s => upTo (ends p) greedy s.after.length s) m := by
        funext s
        rw [ends]
      -- The bound of the optional steps is the length that is left, which is larger in the larger
      -- text; steps beyond the end of the smaller one are the ones filtered out.
      exact hends ▸ hstep.times (hstep.upToEnd greedy) m
    | some max =>
      by_cases hmax : max < m
      · have hends : ends (.repeat m (some max) greedy p) = fun _ => [] := by
          funext s
          rw [ends, if_pos hmax]
        exact hends ▸ ⟨fun _ _ h => absurd h List.not_mem_nil, fun _ _ => rfl⟩
      · have hends : ends (.repeat m (some max) greedy p) =
            times (ends p) (upTo (ends p) greedy (max - m)) m := by
          funext s
          rw [ends, if_neg hmax]
        exact hends ▸ hstep.times (hstep.upTo greedy _) m

/-- The preferred match inside a longer text, unless a match that leads beyond the inner text is
preferred. -/
theorem match?_inside (hlocal : p.OnlyBoundaries)
    (hb : s.before = [] → headIs Text.isWord b = false) (ha : headIs Text.isWord a = false)
    (h : p.match? s = some t) : ∃ u, p.match? (s.inside b a) = some u ∧
      (u = t.inside b a ∨ u.after.length < a.length) := by
  have hinner := (inner_ends hlocal ha).inner hb
  obtain ⟨rest, hrest⟩ : ∃ rest, p.ends s = t :: rest := List.head?_eq_some_iff.1 h
  rw [hrest, List.map_cons] at hinner
  cases hends : p.ends (s.inside b a) with
  | nil => simp [hends] at hinner
  | cons u more =>
    refine ⟨u, by rw [match?, hends, List.head?_cons], ?_⟩
    rw [hends] at hinner
    by_cases hu : notBeyond a u = true
    · rw [List.filter_cons_of_pos hu] at hinner
      exact .inl (List.cons.inj hinner).1
    · exact .inr (by simpa [notBeyond] using hu)

/-- What comes behind a text is not read by a pattern. -/
def Unread (p : Pattern) (a : List Char) : Prop := ∀ c ∈ a.head?, p.mentions c = false

/-- The preferred match inside a longer text is the one in the text, if the pattern does not read
the character behind it. -/
theorem match?_inside_of_unread (hlocal : p.OnlyBoundaries)
    (hb : s.before = [] → headIs Text.isWord b = false) (ha : headIs Text.isWord a = false)
    (hunread : p.Unread a) : p.match? (s.inside b a) = (p.match? s).map (·.inside b a) := by
  have hall : ∀ t ∈ p.ends (s.inside b a), notBeyond a t = true := by
    intro t ht
    have hm := (mem_ends_iff _ _ _).1 ht
    obtain ⟨w, hw⟩ := hm.reads
    rw [notBeyond, decide_eq_true_eq]
    by_contra hlt
    -- Otherwise the first character behind the text would have been read.
    rcases List.append_eq_append_iff.1 hw.after with ⟨v, hv, hrest⟩ | ⟨v, hv, hrest⟩
    · cases v with
      | nil =>
        rw [List.nil_append] at hrest
        exact hlt (hrest ▸ Nat.le.refl)
      | cons c v =>
        have hc : p.mentions c = false := hunread c (by rw [hrest]; rfl)
        exact hm.not_mem hc hw (by rw [hv]; simp)
    · exact hlt (by rw [hrest, List.length_append]; omega)
  have hinner := (inner_ends hlocal ha).inner hb
  rw [List.filter_eq_self.2 hall] at hinner
  rw [match?, hinner, List.head?_map]
  rfl

/-- The characters that matches are made of, as ranges in no order. -/
def alphabet : Pattern → Text.Ranges
  | .empty => []
  | .one set => set
  | .anchor _ => []
  | .seq p q => p.alphabet ++ q.alphabet
  | .alt p q => p.alphabet ++ q.alphabet
  | .repeat _ _ _ p => p.alphabet

theorem exists_of_mentions (h : p.mentions c = true) :
    ∃ r ∈ p.alphabet, r.1 ≤ c.toNat ∧ c.toNat ≤ r.2 := by
  induction p with
  | empty | anchor => cases h
  | one set => exact Text.Ranges.exists_of_contains h
  | seq p q ihp ihq | alt p q ihp ihq =>
    simp only [alphabet, List.mem_append, or_and_right, exists_or]
    exact (Bool.or_eq_true_iff.1 h).imp ihp ihq
  | «repeat» m limit greedy p ih => exact ih h

/-- If matches are made of a class and of some signs, a character of a match is one of these. -/
theorem mem_of_mentions {ranges : Text.Ranges} {signs : List Char}
    (hordered : ranges.Pairwise fun r s => r.1 ≤ s.1)
    (hwithin : p.alphabet.within (ranges ++ signs.map fun c => (c.toNat, c.toNat)) = true)
    (h : p.mentions c = true) : ranges.contains c.toNat = true ∨ c ∈ signs := by
  obtain ⟨x, hx, hlo, hhi⟩ := exists_of_mentions h
  obtain ⟨y, hy, hxy⟩ := List.any_eq_true.1 (List.all_eq_true.1 hwithin x hx)
  simp only [Bool.and_eq_true, Nat.ble_eq] at hxy
  rcases List.mem_append.1 hy with hy | hy
  · exact .inl (Text.Ranges.contains_of_mem hordered hy (Nat.le_trans hxy.1 hlo)
      (Nat.le_trans hhi hxy.2))
  · obtain ⟨d, hd, rfl⟩ := List.mem_map.1 hy
    dsimp only at hxy
    obtain rfl : c = d := Char.toNat_inj.1 (by omega)
    exact .inr hd

/-! ### Replacing part by part -/

theorem replaceFrom_nil (tag : List Char) (before : List Char) :
    p.replaceFrom tag ⟨before, []⟩ = [] := by
  rw [replaceFrom]

/-- A match that reads on is replaced. -/
theorem replaceFrom_hit (tag : List Char) (h : p.match? s = some t)
    (hlt : t.after.length < s.after.length) :
    p.replaceFrom tag s = tag ++ p.replaceFrom tag t := by
  obtain ⟨before, _ | ⟨c, rest⟩⟩ := s
  · exact absurd hlt (Nat.not_lt_zero _)
  · rw [replaceFrom, h]
    simp only [hlt, if_true]

/-- Where the preferred match reads nothing, or where there is none, a character is kept. -/
theorem replaceFrom_skip (tag : List Char)
    (h : ∀ t ∈ p.match? ⟨b, c :: a⟩, (c :: a).length ≤ t.after.length) :
    p.replaceFrom tag ⟨b, c :: a⟩ = c :: p.replaceFrom tag ⟨c :: b, a⟩ := by
  rw [replaceFrom]
  cases hmatch : p.match? ⟨b, c :: a⟩ with
  | none => rfl
  | some t =>
    have hnot : ¬ t.after.length < (c :: a).length := Nat.not_lt.2 (h t hmatch)
    simp only [hnot, if_false]

/-- Replacing goes on behind a match that reads on, and else behind the next character. -/
theorem scan_induction (p : Pattern) {motive : Place → Prop}
    (done : ∀ before, motive ⟨before, []⟩)
    (hit : ∀ s t, p.match? s = some t → t.after.length < s.after.length → motive t → motive s)
    (skip : ∀ before c rest,
      (∀ t ∈ p.match? ⟨before, c :: rest⟩, (c :: rest).length ≤ t.after.length) →
      motive ⟨c :: before, rest⟩ → motive ⟨before, c :: rest⟩) (s : Place) : motive s := by
  obtain ⟨n, hn⟩ : ∃ n, s.after.length = n := ⟨_, rfl⟩
  induction n using Nat.strongRecOn generalizing s with
  | ind n ih =>
    subst hn
    obtain ⟨before, _ | ⟨c, rest⟩⟩ := s
    · exact done before
    · by_cases h : ∃ t, p.match? ⟨before, c :: rest⟩ = some t ∧
          t.after.length < (c :: rest).length
      · obtain ⟨t, hmatch, hlt⟩ := h
        exact hit _ t hmatch hlt (ih _ hlt t rfl)
      · refine skip before c rest (fun t ht => ?_) (ih _ (Nat.lt_succ_self _) _ rfl)
        exact Nat.not_lt.1 fun hlt => h ⟨t, ht, hlt⟩

/-- Replacing in a text that stands between `b` and `a` is replacing in the text, and then in what
comes behind it. -/
theorem replaceFrom_inside (hlocal : p.OnlyBoundaries)
    (hb : s.before = [] → headIs Text.isWord b = false) (ha : headIs Text.isWord a = false)
    (hunread : p.Unread a) (tag : List Char) :
    p.replaceFrom tag (s.inside b a) =
      p.replaceFrom tag s ++ p.replaceFrom tag ⟨s.after.reverse ++ (s.before ++ b), a⟩ := by
  induction s using p.scan_induction with
  | done before =>
    rw [replaceFrom_nil]
    rfl
  | hit s t hmatch hlt ih =>
    obtain ⟨w, hw⟩ := (matches_of_match? hmatch).reads
    have hinside := match?_inside_of_unread hlocal hb ha hunread
    rw [hmatch, Option.map_some] at hinside
    have hlonger : (t.inside b a).after.length < (s.inside b a).after.length := by
      simp only [Place.inside, List.length_append]
      omega
    have hend : t.after.reverse ++ (t.before ++ b) = s.after.reverse ++ (s.before ++ b) := by
      rw [hw.after, hw.before]
      simp
    rw [replaceFrom_hit tag hinside hlonger, replaceFrom_hit tag hmatch hlt,
      ih fun hnil => hb (hw.before_eq_nil hnil), hend, List.append_assoc]
  | skip before c rest h ih =>
    have hkept : p.replaceFrom tag ((⟨before, c :: rest⟩ : Place).inside b a) =
        c :: p.replaceFrom tag ((⟨c :: before, rest⟩ : Place).inside b a) := by
      refine replaceFrom_skip tag fun t ht => ?_
      -- The preferred match of the longer text reads nothing, either.
      have hmatch := (match?_inside_of_unread hlocal hb ha hunread).symm.trans ht
      obtain ⟨t, hinner, rfl⟩ := Option.map_eq_some_iff.1 hmatch
      have hle := h t hinner
      simp only [Place.inside, List.append_eq, List.length_cons, List.length_append] at hle ⊢
      omega
    rw [hkept, replaceFrom_skip tag h, ih fun hnil => absurd hnil (List.cons_ne_nil c before)]
    simp

/-- A text keeps the parts before and behind it apart: its first character is in no match and in no
word, no word goes on behind it, and no match begins in it. -/
structure Divides (p : Pattern) (g : List Char) : Prop where
  opens : ∃ c rest, g = c :: rest ∧ p.mentions c = false ∧ Text.isWord c = false
  closes : headIs Text.isWord g.reverse = false
  inert : ∀ c ∈ g, ∀ ⦃before rest t⦄, p.Matches ⟨before, c :: rest⟩ t →
    rest.length < t.after.length

/-- A sign that is in no match and in no word. -/
theorem divides_singleton (hc : p.mentions c = false) (hword : Text.isWord c = false) :
    p.Divides [c] := by
  refine ⟨⟨c, [], rfl, hc, hword⟩, hword, fun d hd before rest t hm => ?_⟩
  obtain rfl := List.mem_singleton.1 hd
  obtain ⟨_ | ⟨e, w⟩, hw⟩ := hm.reads
  · have hlength := hw.length_eq
    simp only [List.length_cons, List.length_nil] at hlength
    omega
  · obtain ⟨rfl, -⟩ := List.cons.inj hw.after
    exact absurd List.mem_cons_self (hm.not_mem hc hw)

/-- The tags of the rules. -/
theorem IsTag.divides (hp : Standalone p) (h : IsTag tag) : p.Divides tag := by
  refine ⟨?_, h.ends, fun d hd before rest t hm => ?_⟩
  · obtain ⟨body, rfl⟩ := h.sign
    exact ⟨'<', body, rfl, hp.untagged, by decide⟩
  · obtain ⟨c, w, hc, hw⟩ := hp.opens hm
    obtain ⟨rfl, -⟩ := List.cons.inj hw.after
    have hinert := h.inert d hd
    rw [hc] at hinert
    cases hinert

theorem replaceFrom_of_inert (tag : List Char) (b : List Char)
    (h : ∀ c ∈ g, ∀ ⦃before rest t⦄, p.Matches ⟨before, c :: rest⟩ t →
      rest.length < t.after.length) :
    p.replaceFrom tag ⟨b, g ++ a⟩ = g ++ p.replaceFrom tag ⟨g.reverse ++ b, a⟩ := by
  induction g generalizing b with
  | nil => rfl
  | cons c g ih =>
    have hc := h c List.mem_cons_self
    rw [List.cons_append, replaceFrom_skip tag fun t ht => hc (matches_of_match? ht),
      ih (c :: b) fun d hd => h d (List.mem_cons_of_mem c hd), List.reverse_cons,
      List.append_assoc]
    rfl

/-- **Replacing treats the parts of a text one by one.** -/
theorem replaceAll_divided (hlocal : p.OnlyBoundaries) (hg : p.Divides g) (tag u v : List Char) :
    p.replaceAll tag (u ++ (g ++ v)) = p.replaceAll tag u ++ (g ++ p.replaceAll tag v) := by
  obtain ⟨c, rest, hcons, hc, hword⟩ := hg.opens
  have hfirst : p.replaceAll tag (u ++ (g ++ v)) = p.replaceAll tag u ++
      p.replaceFrom tag ⟨u.reverse ++ ([] ++ []), g ++ v⟩ := by
    refine replaceFrom_inside (s := .start u) hlocal (fun _ => rfl) ?_ ?_ tag
    · rw [hcons]
      exact hword
    · rw [hcons]
      rintro d ⟨⟩
      exact hc
  -- Behind the part in the middle it is as at the start of a text.
  have hlast : p.replaceFrom tag ⟨g.reverse ++ (u.reverse ++ ([] ++ [])), v⟩ =
      p.replaceAll tag v := by
    have hclosed : headIs Text.isWord (g.reverse ++ (u.reverse ++ ([] ++ []))) = false := by
      rw [← hg.closes, ← List.append_nil g.reverse, List.append_assoc]
      exact headIs_append fun hnil => by simp [hcons] at hnil
    have hinside := replaceFrom_inside (s := .start v) (a := []) hlocal (fun _ => hclosed) rfl
      (fun d hd => by cases hd) tag
    simpa [Place.inside, Place.start, replaceFrom_nil, replaceAll] using hinside
  rw [hfirst, replaceFrom_of_inert tag _ hg.inert, hlast]

end Pattern

/-! ### Anonymization -/

namespace Privacy

open Pattern

/-- The rules ask of the text around a match only where words begin and end. -/
theorem onlyBoundaries_rules : ∀ r ∈ rules, r.pattern.OnlyBoundaries := by
  simp [rules, identityCode, ipv4Address, internationalPhone, domesticPhone, countryCode,
    phoneDigit, Pattern.sequence, exactly, between, Pattern.optional, digit, boundary, char,
    OnlyBoundaries]

theorem foldl_apply_divided {g : List Char} {rs : List Rule}
    (hlocal : ∀ r ∈ rs, r.pattern.OnlyBoundaries) (hg : ∀ r ∈ rs, r.pattern.Divides g)
    (u v : List Char) :
    rs.foldl (fun t r => r.apply t) (u ++ (g ++ v)) =
      rs.foldl (fun t r => r.apply t) u ++ (g ++ rs.foldl (fun t r => r.apply t) v) := by
  induction rs generalizing u v with
  | nil => rfl
  | cons r rs ih =>
    rw [List.forall_mem_cons] at hlocal hg
    have hone : r.apply (u ++ (g ++ v)) = r.apply u ++ (g ++ r.apply v) :=
      replaceAll_divided hlocal.1 hg.1 r.tag u v
    rw [List.foldl_cons, hone]
    exact ih hlocal.2 hg.2 (r.apply u) (r.apply v)

/-- Whatever keeps the parts of a text apart for every rule does so for all of them together. -/
theorem anonymize_divided {g : List Char} (hg : ∀ r ∈ rules, r.pattern.Divides g)
    (u v : List Char) : anonymize (u ++ (g ++ v)) = anonymize u ++ (g ++ anonymize v) :=
  foldl_apply_divided onlyBoundaries_rules hg u v

/-- The signs that matches are made of, beside the characters of words. -/
def signs : List Char := [' ', '-', '+', '(', ')', '.']

theorem alphabet_rules : ∀ r ∈ rules, r.pattern.alphabet.within
    (Text.wordRanges ++ signs.map fun c => (c.toNat, c.toNat)) = true := by
  decide +kernel

/-- No match reads a character that is neither a word character nor one of the signs. -/
theorem mentions_rules {c : Char} (hword : Text.isWord c = false) (hsign : c ∉ signs) :
    ∀ r ∈ rules, r.pattern.mentions c = false := by
  intro r hr
  by_contra hc
  rcases mem_of_mentions Text.wordRanges_ordered (alphabet_rules r hr) (eq_true_of_ne_false hc) with
    hisWord | hisSign
  · exact Bool.false_ne_true (hword.symm.trans hisWord)
  · exact hsign hisSign

/-- **Anonymization is local.**  Between two texts let there be a character that is neither a word
character nor one of the signs that matches are made of.  Then the two are anonymized each by
itself, and the same holds for any number of parts with this character between them. -/
theorem anonymizeText_local {c : Char} (hword : Text.isWord c = false)
    (hsign : c ∉ [' ', '-', '+', '(', ')', '.']) :
    (∀ a b : String, anonymizeText (a ++ String.singleton c ++ b) =
      anonymizeText a ++ String.singleton c ++ anonymizeText b) ∧
    ∀ parts : List String, anonymizeText ((String.singleton c).intercalate parts) =
      (String.singleton c).intercalate (parts.map anonymizeText) := by
  -- No rule mentions the separator, so it stands between the places of any two matches.
  have hdivides : ∀ r ∈ rules, r.pattern.Divides [c] := fun r hr =>
    divides_singleton (mentions_rules hword hsign r hr) hword
  have htwo : ∀ a b : String, anonymizeText (a ++ String.singleton c ++ b) =
      anonymizeText a ++ String.singleton c ++ anonymizeText b := by
    intro a b
    have hlists := anonymize_divided hdivides a.toList b.toList
    rw [← String.toList_inj]
    simp only [anonymizeText, String.toList_append, String.toList_singleton, String.toList_ofList,
      List.append_assoc]
    exact hlists
  refine ⟨htwo, fun parts => ?_⟩
  -- The statement about two texts, once for every separator of the list.
  induction parts with
  | nil =>
    have hempty : anonymizeText "" = "" := by decide +kernel
    exact hempty
  | cons part parts ih =>
    cases parts with
    | nil => simp only [List.map_cons, List.map_nil, String.intercalate_singleton]
    | cons next parts =>
      rw [String.intercalate_cons_cons, htwo, ih]
      simp only [List.map_cons, String.intercalate_cons_cons]

/-- Two numbers in a row, with a comma or the end of a line between them. -/
theorem anonymizeText_local_comma :
    anonymizeText ("0401234567" ++ String.singleton ',' ++ "+358 50 1234567") =
      "<phone>,<phone>" ∧
    anonymizeText ((String.singleton '\n').intercalate ["127.0.0.1", "020976-398H", "klo 14.20"]) =
      "<ip>\n<hetu>\nklo 14.20" := by
  refine ⟨?_, ?_⟩
  · rw [(anonymizeText_local (by decide) (by decide)).1]
    decide +kernel
  · rw [(anonymizeText_local (by decide) (by decide)).2]
    decide +kernel

end Privacy

end DialogueStore
