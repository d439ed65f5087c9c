/-
Finite maps with text keys, kept as lists in increasing order of the key.

The order is the one that shows wherever a map is printed.  Lookup finds the
first entry of a key; `get?_insert` and `get?_erase` say what the two updates
do to lookups, and both hold of every list, ordered or not.  `insert` keeps
the order (`Sorted.insert`), and two ordered lists with the same lookups are
equal.
-/
namespace DialogueStore

/-- A map from text to `α`, as its entries. -/
abbrev Dict (α : Type) := List (String × α)

namespace Dict

variable {α β : Type}

def get? : Dict α → String → Option α
  | [], _ => none
  | (k, v) :: rest, key => if k = key then some v else get? rest key

def contains (d : Dict α) (key : String) : Bool := (d.get? key).isSome

/-- Stores a value under a key, in its place in the order and instead of an earlier value. -/
def insert : Dict α → String → α → Dict α
  | [], key, a => [(key, a)]
  | (k, v) :: rest, key, a =>
    if key < k then (key, a) :: (k, v) :: rest
    else if k = key then (key, a) :: rest
    else (k, v) :: insert rest key a

def erase (d : Dict α) (key : String) : Dict α := d.filter fun e => e.1 ≠ key

/-- The map of a sequence of entries, in which a later entry of a key replaces an earlier one. -/
def ofList (entries : List (String × α)) : Dict α :=
  entries.foldl (fun d e => d.insert e.1 e.2) []

/-- All entries of two maps; where both have a key, the second one's value counts. -/
def union (a b : Dict α) : Dict α := b.foldl (fun d e => d.insert e.1 e.2) a

def keys (d : Dict α) : List String := d.map (·.1)

def mapValues (f : α → β) (d : Dict α) : Dict β := d.map fun e => (e.1, f e.2)

/-- Applies a function to the value of one key, if it is there. -/
def adjust : Dict α → String → (α → α) → Dict α
  | [], _, _ => []
  | (k, v) :: rest, key, f =>
    if k = key then (k, f v) :: rest else (k, v) :: adjust rest key f

/-- Keys strictly increase from entry to entry. -/
def Sorted (d : Dict α) : Prop := d.Pairwise fun a b => a.1 < b.1

@[simp] theorem get?_nil (key : String) : get? ([] : Dict α) key = none := rfl

theorem get?_insert (d : Dict α) (key other : String) (a : α) :
    (d.insert key a).get? other = if key = other then some a else d.get? other := by
  induction d with
  | nil => simp [insert, get?]
  | cons e rest ih =>
    obtain ⟨k, v⟩ := e
    by_cases h : key < k
    · simp [insert, h, get?]
    · by_cases hk : k = key
      · subst hk
        by_cases ho : k = other <;> simp [insert, get?, ho]
      · by_cases ho : k = other
        · subst ho
          simp [insert, h, hk, get?, Ne.symm hk]
        · simp [insert, h, hk, get?, ho, ih]

theorem get?_erase (d : Dict α) (key other : String) :
    (d.erase key).get? other = if key = other then none else d.get? other := by
  induction d with
  | nil => simp [erase, get?]
  | cons e rest ih =>
    obtain ⟨k, v⟩ := e
    simp only [erase] at ih
    by_cases hk : k = key
    · subst hk
      by_cases ho : k = other <;> simp_all [erase, get?]
    · by_cases ho : k = other
      · subst ho
        simp [erase, get?, hk, Ne.symm hk]
      · simp_all [erase, get?]

theorem get?_adjust (d : Dict α) (key other : String) (f : α → α) :
    (d.adjust key f).get? other = if key = other then (d.get? other).map f else d.get? other := by
  induction d with
  | nil => simp [adjust, get?]
  | cons e rest ih =>
    obtain ⟨k, v⟩ := e
    by_cases hk : k = key
    · subst hk
      by_cases ho : k = other <;> simp [adjust, get?, ho]
    · by_cases ho : k = other
      · subst ho
        simp [adjust, get?, hk, Ne.symm hk]
      · simp [adjust, get?, hk, ho, ih]

theorem mem_insert {d : Dict α} {key : String} {a : α} {e : String × α}
    (h : e ∈ d.insert key a) : e = (key, a) ∨ e ∈ d := by
  induction d with
  | nil => simpa [insert] using h
  | cons e' rest ih =>
    obtain ⟨k, v⟩ := e'
    by_cases hlt : key < k
    · simpa [insert, hlt] using h
    · by_cases hk : k = key
      · subst hk
        simp only [insert, hlt, if_false, if_true, List.mem_cons] at h
        exact h.imp_right (List.mem_cons_of_mem _)
      · simp only [insert, hlt, hk, if_false, List.mem_cons] at h
        rcases h with h | h
        · exact .inr (h ▸ List.mem_cons_self)
        · exact (ih h).imp_right (List.mem_cons_of_mem _)

/-- A key beyond all others comes last. -/
theorem insert_of_forall_lt {d : Dict α} {key : String} (h : ∀ e ∈ d, e.1 < key) (a : α) :
    d.insert key a = d ++ [(key, a)] := by
  induction d with
  | nil => rfl
  | cons e rest ih =>
    obtain ⟨k, v⟩ := e
    have hk : k < key := h (k, v) List.mem_cons_self
    have hne : k ≠ key := fun heq => String.lt_irrefl _ (heq ▸ hk)
    rw [insert, if_neg fun hlt => String.lt_irrefl _ (String.lt_trans hk hlt), if_neg hne,
      ih fun e he => h e (List.mem_cons_of_mem _ he)]
    rfl

theorem Sorted.insert {d : Dict α} (h : Sorted d) (key : String) (a : α) :
    Sorted (d.insert key a) := by
  induction d with
  | nil => simp [Dict.insert, Sorted]
  | cons e rest ih =>
    obtain ⟨k, v⟩ := e
    have hrest := List.pairwise_cons.1 h
    by_cases hlt : key < k
    · simp only [Dict.insert, hlt, if_true]
      refine List.pairwise_cons.2 ⟨fun e he => ?_, h⟩
      rcases List.mem_cons.1 he with rfl | he
      · exact hlt
      · exact String.lt_trans hlt (hrest.1 e he)
    · by_cases hk : k = key
      · subst hk
        simp only [Dict.insert, hlt, if_false, if_true]
        exact List.pairwise_cons.2 ⟨fun e he => hrest.1 e he, hrest.2⟩
      · simp only [Dict.insert, hlt, hk, if_false]
        have hkk : k < key :=
          Decidable.byContradiction fun hn => hk (String.le_antisymm hlt hn)
        refine List.pairwise_cons.2 ⟨fun e he => ?_, ih hrest.2⟩
        rcases mem_insert he with rfl | he
        · exact hkk
        · exact hrest.1 e he

theorem Sorted.ofList (entries : List (String × α)) : Sorted (Dict.ofList entries) := by
  have go : ∀ (es : List (String × α)) (d : Dict α), Sorted d →
      Sorted (es.foldl (fun d e => d.insert e.1 e.2) d) := by
    intro es
    induction es with
    | nil => exact fun _ h => h
    | cons e es ih => exact fun d h => ih _ (h.insert e.1 e.2)
  exact go entries [] .nil

theorem get?_eq_none_of_forall_lt {d : Dict α} {key : String} (h : ∀ e ∈ d, key < e.1) :
    d.get? key = none := by
  induction d with
  | nil => rfl
  | cons e rest ih =>
    have hne : e.1 ≠ key := fun he => String.lt_irrefl _ (he ▸ h e List.mem_cons_self)
    simpa [get?, hne] using ih fun e he => h e (List.mem_cons_of_mem _ he)

/-- Two ordered maps with the same lookups are equal. -/
theorem Sorted.ext {a b : Dict α} (ha : Sorted a) (hb : Sorted b)
    (h : ∀ key, a.get? key = b.get? key) : a = b := by
  induction a generalizing b with
  | nil =>
    cases b with
    | nil => rfl
    | cons e _ => simpa [get?] using h e.1
  | cons e a ih =>
    cases b with
    | nil => simpa [get?] using h e.1
    | cons e' b =>
      obtain ⟨k, v⟩ := e
      obtain ⟨k', v'⟩ := e'
      have ha' := List.pairwise_cons.1 ha
      have hb' := List.pairwise_cons.1 hb
      have hkk : k = k' := by
        refine String.le_antisymm (fun hlt => ?_) (fun hlt => ?_)
        · have := h k'
          rw [get?_eq_none_of_forall_lt (d := (k, v) :: a)] at this
          · simp [get?] at this
          · rintro e he
            rcases List.mem_cons.1 he with rfl | he
            · exact hlt
            · exact String.lt_trans hlt (ha'.1 e he)
        · have := h k
          rw [get?_eq_none_of_forall_lt (d := (k', v') :: b)] at this
          · simp [get?] at this
          · rintro e he
            rcases List.mem_cons.1 he with rfl | he
            · exact hlt
            · exact String.lt_trans hlt (hb'.1 e he)
      subst hkk
      have hv : v = v' := by simpa [get?] using h k
      subst hv
      congr 1
      refine ih ha'.2 hb'.2 fun key => ?_
      by_cases hk : k = key
      · subst hk
        rw [get?_eq_none_of_forall_lt ha'.1, get?_eq_none_of_forall_lt hb'.1]
      · simpa [get?, hk] using h key

end Dict

end DialogueStore
