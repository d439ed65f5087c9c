/-
More about finite maps.

What the operations on maps do to lookups, to the list of keys and to the order of the
entries.  An ordered map is told by its lookups (`Dict.Sorted.ext`); most equations
between maps are proved through it.
-/
import Mathlib.Data.List.Nodup
import DialogueStore.Dict

namespace DialogueStore

namespace Dict

variable {α β : Type} {d : Dict α}

/-! ### Entries and lookups -/

theorem mem_of_get? {key : String} {a : α} (h : d.get? key = some a) : (key, a) ∈ d := by
  induction d with
  | nil => simp at h
  | cons e rest ih =>
    obtain ⟨k, v⟩ := e
    by_cases hk : k = key
    · subst hk
      obtain rfl : v = a := by simpa [get?] using h
      exact List.mem_cons_self
    · exact List.mem_cons_of_mem _ (ih (by simpa [get?, hk] using h))

theorem get?_append (d d' : Dict α) (key : String) :
    get? (d ++ d') key = (d.get? key).or (d'.get? key) := by
  induction d with
  | nil => rfl
  | cons e rest ih =>
    rw [List.cons_append, get?, get?]
    split
    · rfl
    · exact ih

theorem mem_keys_of_get? {key : String} {a : α} (h : d.get? key = some a) : key ∈ d.keys :=
  List.mem_map_of_mem (mem_of_get? h)

theorem Sorted.filter (h : Sorted d) (keep : String × α → Bool) : Sorted (d.filter keep) :=
  List.Pairwise.filter keep h

/-- In an ordered map the entries are the lookups. -/
theorem Sorted.mem_iff (h : Sorted d) {key : String} {a : α} :
    (key, a) ∈ d ↔ d.get? key = some a := by
  induction d with
  | nil => simp
  | cons e rest ih =>
    obtain ⟨k, v⟩ := e
    obtain ⟨hlt, hrest⟩ := List.pairwise_cons.1 h
    by_cases hk : k = key
    · subst hk
      have hnot : (k, a) ∉ rest := fun hm => String.lt_irrefl k (hlt (k, a) hm)
      simp [get?, hnot, eq_comm]
    · simp [get?, hk, Ne.symm hk, ih hrest]

theorem Sorted.get?_filter (h : Sorted d) (keep : String × α → Bool) (key : String) :
    get? (d.filter keep) key = (d.get? key).filter fun a => keep (key, a) := by
  ext a
  rw [← (h.filter keep).mem_iff, List.mem_filter, h.mem_iff, Option.filter_eq_some_iff]

theorem Sorted.nodup_keys (h : Sorted d) : (d.map (·.1)).Nodup := by
  have hkeys : (d.map (·.1)).Pairwise (· < ·) := List.pairwise_map.2 h
  refine hkeys.imp ?_
  rintro a _ hlt rfl
  exact String.lt_irrefl a hlt

/-! ### Adjusting values -/

theorem keys_adjust (d : Dict α) (key : String) (f : α → α) : (d.adjust key f).keys = d.keys := by
  induction d with
  | nil => rfl
  | cons e rest ih =>
    obtain ⟨k, v⟩ := e
    rw [adjust]
    split
    · rfl
    · exact congrArg (k :: ·) ih

/-- Adjusting a value changes nothing just if the value stays as it is. -/
theorem adjust_eq_self_iff {key : String} {f : α → α} :
    d.adjust key f = d ↔ ∀ a ∈ d.get? key, f a = a := by
  induction d with
  | nil => simp [adjust]
  | cons entry rest ih =>
    obtain ⟨k, v⟩ := entry
    rw [adjust, get?]
    split
    · simp
    · rw [List.cons_inj_right, ih]

/-- The same for two values with different keys. -/
theorem adjust_adjust_eq_self_iff {k l : String} (hkl : k ≠ l) {f g : α → α} :
    (d.adjust k f).adjust l g = d ↔ (∀ a ∈ d.get? k, f a = a) ∧ ∀ a ∈ d.get? l, g a = a := by
  constructor
  · intro h
    have hget : ∀ key, ((d.adjust k f).adjust l g).get? key = d.get? key := by
      intro key
      rw [h]
    refine ⟨fun a ha => ?_, fun a ha => ?_⟩
    · have hk := hget k
      rw [get?_adjust, if_neg (Ne.symm hkl), get?_adjust, if_pos rfl, Option.mem_def.1 ha] at hk
      exact Option.some.inj hk
    · have hl := hget l
      rw [get?_adjust, if_pos rfl, get?_adjust, if_neg hkl, Option.mem_def.1 ha] at hl
      exact Option.some.inj hl
  · rintro ⟨hk, hl⟩
    rw [adjust_eq_self_iff.2 hk, adjust_eq_self_iff.2 hl]

/-! ### All values -/

theorem get?_mapValues (f : α → β) (d : Dict α) (key : String) :
    (d.mapValues f).get? key = (d.get? key).map f := by
  induction d with
  | nil => rfl
  | cons e rest ih =>
    rw [mapValues, List.map_cons, get?, get?]
    split
    · rfl
    · exact ih

theorem keys_mapValues (f : α → β) (d : Dict α) : (d.mapValues f).keys = d.keys := by
  rw [keys, mapValues, List.map_map]
  rfl

theorem Sorted.mapValues (hd : d.Sorted) (f : α → β) : (d.mapValues f).Sorted :=
  List.pairwise_map.2 hd

/-- Two ordered maps that hold something under the same keys have the same list of keys. -/
theorem Sorted.keys_eq {d' : Dict β} (hd : d.Sorted) (hd' : d'.Sorted)
    (h : ∀ key, d.contains key = d'.contains key) : d.keys = d'.keys := by
  -- With the values forgotten the two maps are the same map.
  have hunits : d.mapValues (fun _ => ()) = d'.mapValues fun _ => () := by
    refine (hd.mapValues _).ext (hd'.mapValues _) fun key => ?_
    have hkey := h key
    rw [contains, contains] at hkey
    rw [get?_mapValues, get?_mapValues]
    cases hget : d.get? key <;> cases hget' : d'.get? key <;> simp_all
  rw [← keys_mapValues (fun _ => ()) d, hunits, keys_mapValues]

/-! ### Two maps -/

variable {a b c : Dict α}

theorem Sorted.union (ha : a.Sorted) (b : Dict α) : (a.union b).Sorted := by
  induction b generalizing a with
  | nil => exact ha
  | cons e rest ih => exact ih (ha.insert e.1 e.2)

/-- Of two values of one key, the second map's counts. -/
theorem get?_union (a : Dict α) (hb : b.Sorted) (key : String) :
    (a.union b).get? key = (b.get? key).or (a.get? key) := by
  induction b generalizing a with
  | nil => rfl
  | cons e rest ih =>
    obtain ⟨k, v⟩ := e
    obtain ⟨hlt, hrest⟩ := List.pairwise_cons.1 hb
    have hstep : (a.union ((k, v) :: rest)).get? key =
        (get? rest key).or ((a.insert k v).get? key) := ih (a.insert k v) hrest
    rw [hstep, get?_insert, get?]
    by_cases hk : k = key
    · subst hk
      rw [if_pos rfl, if_pos rfl, get?_eq_none_of_forall_lt hlt, Option.none_or, Option.some_or]
    · rw [if_neg hk, if_neg hk]

theorem union_assoc (ha : a.Sorted) (hb : b.Sorted) (hc : c.Sorted) :
    (a.union b).union c = a.union (b.union c) := by
  refine ((ha.union b).union c).ext (ha.union (b.union c)) fun key => ?_
  rw [get?_union _ hc, get?_union _ hb, get?_union _ (hb.union c), get?_union _ hc,
    Option.or_assoc]

theorem nil_union (hb : b.Sorted) : union [] b = b := by
  have hnil : Sorted ([] : Dict α) := .nil
  refine (hnil.union b).ext hb fun key => ?_
  rw [get?_union _ hb, get?_nil, Option.or_none]

end Dict

end DialogueStore
