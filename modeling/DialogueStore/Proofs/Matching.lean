/-
Matching finds what a pattern means.

`Pattern.ends` is written to find the preferred match first, and what a pattern
means is said by `Pattern.Matches`.  The two agree (`Pattern.mem_ends_iff`): the
matcher lists the ends of all matches from a place, and no others.  So it finds a
match from a place just if there is one (`Pattern.match?_eq_none_iff`).

Design notes: the matcher leaves out a repetition that reads nothing, which a
match may well have.  Such a repetition leads nowhere, so that a match with as
many is a match with fewer of them (`Pattern.Times.exists_le`).
-/
import Mathlib.Data.List.Basic
import DialogueStore.Pattern.Match

namespace DialogueStore

/-- Reading a text leads from one place to another one. -/
structure Place.Reads (s : Place) (text : List Char) (t : Place) : Prop where
  after : s.after = text ++ t.after
  before : t.before = text.reverse ++ s.before

namespace Place.Reads

variable {s t u : Place} {v w : List Char} {c : Char}

theorem refl (s : Place) : s.Reads [] s := ⟨rfl, rfl⟩

theorem trans (h : s.Reads v t) (h' : t.Reads w u) : s.Reads (v ++ w) u := by
  refine ⟨?_, ?_⟩
  · rw [h.after, h'.after, List.append_assoc]
  · rw [h'.before, h.before, List.reverse_append, List.append_assoc]

theorem length_eq (h : s.Reads w t) : s.after.length = w.length + t.after.length := by
  rw [h.after, List.length_append]

theorem length_le (h : s.Reads w t) : t.after.length ≤ s.after.length := by
  rw [h.length_eq]
  exact Nat.le_add_left _ _

/-- Whoever reads nothing stays. -/
theorem eq_of_length (h : s.Reads w t) (hle : s.after.length ≤ t.after.length) : t = s := by
  have hw : w = [] := by
    rw [← List.length_eq_zero_iff]
    have := h.length_eq
    omega
  subst hw
  obtain ⟨before, after⟩ := t
  obtain ⟨rfl, rfl⟩ : after = s.after ∧ before = s.before := ⟨h.after.symm, h.before⟩
  rfl

end Place.Reads

theorem Place.reads_singleton {before rest : List Char} {c d : Char} {t : Place} :
    (⟨before, c :: rest⟩ : Place).Reads [d] t ↔ d = c ∧ t = ⟨c :: before, rest⟩ := by
  constructor
  · rintro ⟨hafter, hbefore⟩
    obtain ⟨before', after'⟩ := t
    obtain ⟨rfl, rfl⟩ : c = d ∧ rest = after' := by simpa using hafter
    obtain rfl : before' = c :: before := by simpa using hbefore
    exact ⟨rfl, rfl⟩
  · rintro ⟨rfl, rfl⟩
    exact ⟨rfl, rfl⟩

namespace Pattern

variable {p q : Pattern} {s t u : Place} {m n : Nat} {limit : Option Nat} {greedy : Bool}

/-! ### What each kind of pattern matches -/

theorem matches_empty : Matches .empty s t ↔ t = s := by
  constructor
  · rintro ⟨⟩
    rfl
  · rintro rfl
    exact .empty t

theorem matches_one {set : Text.Ranges} : Matches (.one set) s t ↔
    ∃ c, set.contains c.toNat = true ∧ s.Reads [c] t := by
  constructor
  · rintro (_ | ⟨hc⟩)
    exact ⟨_, hc, rfl, rfl⟩
  · rintro ⟨c, hc, hafter, hbefore⟩
    obtain ⟨before, after⟩ := s
    obtain ⟨before', after'⟩ := t
    obtain rfl : after = c :: after' := hafter
    obtain rfl : before' = c :: before := hbefore
    exact .one hc

theorem matches_anchor {a : Anchor} : Matches (.anchor a) s t ↔ a.holds s = true ∧ t = s := by
  constructor
  · rintro (_ | _ | ⟨h⟩)
    exact ⟨h, rfl⟩
  · rintro ⟨h, rfl⟩
    exact .anchor h

theorem matches_seq : Matches (.seq p q) s u ↔ ∃ t, p.Matches s t ∧ q.Matches t u := by
  constructor
  · rintro (_ | _ | _ | ⟨hp, hq⟩)
    exact ⟨_, hp, hq⟩
  · rintro ⟨t, hp, hq⟩
    exact .seq hp hq

theorem matches_alt : Matches (.alt p q) s t ↔ p.Matches s t ∨ q.Matches s t := by
  constructor
  · intro h
    cases h with
    | left h => exact .inl h
    | right h => exact .inr h
  · rintro (h | h)
    · exact .left h
    · exact .right h

theorem matches_repeat : Matches (.repeat m limit greedy p) s t ↔
    ∃ n, m ≤ n ∧ (∀ max ∈ limit, n ≤ max) ∧ Times p n s t := by
  constructor
  · intro h
    cases h with
    | «repeat» hmin hmax h => exact ⟨_, hmin, hmax, h⟩
  · rintro ⟨n, hmin, hmax, h⟩
    exact .repeat hmin hmax h

theorem times_zero : Times p 0 s t ↔ t = s := by
  constructor
  · intro h
    cases h with
    | zero => rfl
  · rintro rfl
    exact .zero p t

theorem times_succ : Times p (n + 1) s u ↔ ∃ t, p.Matches s t ∧ Times p n t u := by
  constructor
  · intro h
    cases h with
    | succ hp hn => exact ⟨_, hp, hn⟩
  · rintro ⟨t, hp, hn⟩
    exact .succ hp hn

theorem times_add : Times p (m + n) s u ↔ ∃ t, Times p m s t ∧ Times p n t u := by
  induction m generalizing s with
  | zero => simp [times_zero]
  | succ m ih =>
    rw [Nat.succ_add]
    simp only [times_succ, ih]
    constructor
    · rintro ⟨t, hp, v, hm, hn⟩
      exact ⟨v, ⟨t, hp, hm⟩, hn⟩
    · rintro ⟨v, ⟨t, hp, hm⟩, hn⟩
      exact ⟨t, hp, v, hm, hn⟩

/-- A property of the steps is a property of so many of them. -/
theorem Times.reads (hp : ∀ {s t}, p.Matches s t → ∃ w, s.Reads w t) (h : Times p n s t) :
    ∃ w, s.Reads w t := by
  induction n generalizing s with
  | zero =>
    obtain rfl := times_zero.1 h
    exact ⟨[], .refl t⟩
  | succ n ih =>
    obtain ⟨u, hu, h⟩ := times_succ.1 h
    obtain ⟨v, hv⟩ := hp hu
    obtain ⟨w, hw⟩ := ih h
    exact ⟨v ++ w, hv.trans hw⟩

/-- A match reads on. -/
theorem Matches.reads (h : p.Matches s t) : ∃ w, s.Reads w t := by
  induction p generalizing s t with
  | empty =>
    obtain rfl := matches_empty.1 h
    exact ⟨[], .refl t⟩
  | one set =>
    obtain ⟨c, -, hc⟩ := matches_one.1 h
    exact ⟨[c], hc⟩
  | anchor a =>
    obtain ⟨-, rfl⟩ := matches_anchor.1 h
    exact ⟨[], .refl t⟩
  | seq p q ihp ihq =>
    obtain ⟨u, hp, hq⟩ := matches_seq.1 h
    obtain ⟨v, hv⟩ := ihp hp
    obtain ⟨w, hw⟩ := ihq hq
    exact ⟨v ++ w, hv.trans hw⟩
  | alt p q ihp ihq =>
    rcases matches_alt.1 h with h | h
    · exact ihp h
    · exact ihq h
  | «repeat» m limit greedy p ih =>
    obtain ⟨n, -, -, h⟩ := matches_repeat.1 h
    exact h.reads ih

/-- A repetition that moves has a first step that moves. -/
theorem Times.advance (h : Times p n s t) : t = s ∨
    ∃ u, (p.Matches s u ∧ u.after.length < s.after.length) ∧ ∃ k, k < n ∧ Times p k u t := by
  induction n with
  | zero => exact .inl (times_zero.1 h)
  | succ n ih =>
    obtain ⟨u, hu, hrest⟩ := times_succ.1 h
    obtain ⟨w, hw⟩ := hu.reads
    by_cases hlt : u.after.length < s.after.length
    · exact .inr ⟨u, ⟨hu, hlt⟩, n, Nat.lt_succ_self n, hrest⟩
    · -- A first step that reads nothing ends where it began, and the rest goes on from there.
      obtain rfl := hw.eq_of_length (Nat.le_of_not_lt hlt)
      refine (ih hrest).imp_right ?_
      rintro ⟨v, hv, k, hk, hkt⟩
      exact ⟨v, hv, k, Nat.lt_succ_of_lt hk, hkt⟩

/-- Steps that read nothing can be left out, and then no more are left than characters are read. -/
theorem Times.exists_le (h : Times p n s t) : ∃ k, k ≤ s.after.length ∧ Times p k s t := by
  induction n using Nat.strongRecOn generalizing s with
  | ind n ih =>
    rcases h.advance with rfl | ⟨u, ⟨hu, hlt⟩, k, hk, hrest⟩
    · exact ⟨0, Nat.zero_le _, .zero p t⟩
    · obtain ⟨j, hj, hrest⟩ := ih k hk hrest
      exact ⟨j + 1, by omega, .succ hu hrest⟩

/-! ### The matcher -/

/-- What is known of the ends of a pattern is known of its repetitions. -/
theorem mem_upTo (hp : ∀ s t, t ∈ p.ends s ↔ p.Matches s t) (more : Nat) (s : Place) :
    t ∈ upTo p.ends greedy more s ↔ ∃ n, n ≤ more ∧ Times p n s t := by
  induction more generalizing s with
  | zero => simp [upTo, times_zero]
  | succ more ih =>
    have hstep : t ∈ upTo p.ends greedy (more + 1) s ↔ t = s ∨
        ∃ u, (p.Matches s u ∧ u.after.length < s.after.length) ∧
          ∃ n, n ≤ more ∧ Times p n u t := by
      rw [upTo]
      cases greedy <;> simp [hp, ih, or_comm]
    rw [hstep]
    constructor
    · rintro (rfl | ⟨u, ⟨hu, -⟩, n, hn, h⟩)
      · exact ⟨0, Nat.zero_le _, .zero p t⟩
      · exact ⟨n + 1, Nat.succ_le_succ hn, .succ hu h⟩
    · -- The matcher only goes on from a step that has read something.
      rintro ⟨n, hn, h⟩
      refine h.advance.imp_right ?_
      rintro ⟨u, hu, k, hk, hrest⟩
      exact ⟨u, hu, k, by omega, hrest⟩

theorem mem_times (hp : ∀ s t, t ∈ p.ends s ↔ p.Matches s t) {next : Place → List Place}
    (n : Nat) (s : Place) : t ∈ times p.ends next n s ↔ ∃ u, Times p n s u ∧ t ∈ next u := by
  induction n generalizing s with
  | zero => simp [times, times_zero]
  | succ n ih =>
    simp only [times, List.mem_flatMap, hp, ih, times_succ]
    constructor
    · rintro ⟨v, hv, u, hu, ht⟩
      exact ⟨u, ⟨v, hv, hu⟩, ht⟩
    · rintro ⟨u, ⟨v, hv, hu⟩, ht⟩
      exact ⟨v, hv, u, hu, ht⟩

theorem mem_ends_repeat (hp : ∀ s t, t ∈ p.ends s ↔ p.Matches s t) :
    t ∈ (Pattern.repeat m limit greedy p).ends s ↔
      (Pattern.repeat m limit greedy p).Matches s t := by
  rw [matches_repeat]
  cases limit with
  | none =>
    rw [ends, mem_times hp]
    simp only [mem_upTo hp]
    constructor
    · rintro ⟨u, hu, n, -, hn⟩
      exact ⟨m + n, Nat.le_add_right m n, by simp, times_add.2 ⟨u, hu, hn⟩⟩
    · -- The steps after the required ones are tried only as often as there are characters left.
      rintro ⟨n, hmn, -, h⟩
      obtain ⟨k, rfl⟩ := Nat.exists_eq_add_of_le hmn
      obtain ⟨u, hu, hk⟩ := times_add.1 h
      exact ⟨u, hu, hk.exists_le⟩
  | some max =>
    rw [ends]
    split
    · -- With the bounds the wrong way round there is neither an end nor a match.
      rename_i hlt
      constructor
      · intro h
        cases h
      · rintro ⟨n, hmn, hmax, -⟩
        have hn := hmax max rfl
        omega
    · rename_i hle
      rw [mem_times hp]
      simp only [mem_upTo hp]
      constructor
      · rintro ⟨u, hu, n, hn, h⟩
        refine ⟨m + n, Nat.le_add_right m n, ?_, times_add.2 ⟨u, hu, h⟩⟩
        rintro _ ⟨⟩
        omega
      · rintro ⟨n, hmn, hmax, h⟩
        obtain ⟨k, rfl⟩ := Nat.exists_eq_add_of_le hmn
        obtain ⟨u, hu, hk⟩ := times_add.1 h
        have hn := hmax max rfl
        exact ⟨u, hu, k, by omega, hk⟩

/-- **The matcher lists the ends of all matches from a place, and no others.** -/
theorem mem_ends_iff (p : Pattern) (s t : Place) : t ∈ p.ends s ↔ p.Matches s t := by
  induction p generalizing s t with
  | empty => rw [ends, List.mem_singleton, matches_empty]
  | one set =>
    rw [matches_one]
    obtain ⟨before, _ | ⟨c, rest⟩⟩ := s
    · constructor
      · intro h
        cases h
      · rintro ⟨c, -, hafter, -⟩
        cases hafter
    · simp only [Place.reads_singleton]
      rw [ends]
      split <;> simp_all
  | anchor a =>
    rw [ends, matches_anchor]
    split <;> simp_all
  | seq p q ihp ihq => simp only [ends, List.mem_flatMap, ihp, ihq, matches_seq]
  | alt p q ihp ihq => rw [ends, List.mem_append, ihp, ihq, matches_alt]
  | «repeat» m limit greedy p ih => exact mem_ends_repeat ih

/-- The matcher finds nothing just if there is nothing. -/
theorem match?_eq_none_iff : p.match? s = none ↔ ∀ t, ¬ p.Matches s t := by
  simp only [match?, List.head?_eq_none_iff, List.eq_nil_iff_forall_not_mem, mem_ends_iff]

/-- What the matcher finds is a match. -/
theorem matches_of_match? (h : p.match? s = some t) : p.Matches s t :=
  (mem_ends_iff p s t).1 (List.mem_of_head? h)

end Pattern

end DialogueStore
