/-
The order of floating-point numbers.

Timestamps are floating-point numbers, and a cursor cuts a conversation in two by
comparing them.  `Float`'s comparisons are no order, since nothing compares with
a value that is no number, but on numbers they are: each has a place in a linear
order (`place?`), and a comparison holds just if both sides have a place and the
places compare so.
-/
import Mathlib.Data.Prod.Lex

namespace DialogueStore

namespace FloatOrder

open Float.Model (UnpackedFloat)

/-- The sign and kind of a number, then its exponent, then its mantissa. -/
abbrev Place := ℤ ×ₗ ℤ ×ₗ ℤ

def place (kind exponent mantissa : ℤ) : Place := toLex (kind, toLex (exponent, mantissa))

/-- The place of a number among all others. -/
def place? : UnpackedFloat → Option Place
  | .notANumber => none
  | .infinity .negative => some (place (-2) 0 0)
  | .finite .negative m e _ => some (place (-1) (-e) (-m))
  | .zero _ => some (place 0 0 0)
  | .finite .positive m e _ => some (place 1 e m)
  | .infinity .positive => some (place 2 0 0)

theorem place_lt {k e m k' e' m' : ℤ} : place k e m < place k' e' m' ↔
    k < k' ∨ k = k' ∧ (e < e' ∨ e = e' ∧ m < m') := by
  simp [place, Prod.Lex.toLex_lt_toLex]

theorem place_le {k e m k' e' m' : ℤ} : place k e m ≤ place k' e' m' ↔
    k < k' ∨ k = k' ∧ (e < e' ∨ e = e' ∧ m ≤ m') := by
  simp [place, Prod.Lex.toLex_le_toLex]

theorem then_eq_lt {e e' : ℤ} {m m' : ℕ} :
    (compare e e').then (compare m m') = .lt ↔ e < e' ∨ e = e' ∧ m < m' := by
  rw [Ordering.then_eq_lt, compare_lt_iff_lt, compare_eq_iff_eq, compare_lt_iff_lt]

theorem then_eq_gt {e e' : ℤ} {m m' : ℕ} :
    (compare e e').then (compare m m') = .gt ↔ e' < e ∨ e = e' ∧ m' < m := by
  rw [Ordering.then_eq_gt, compare_gt_iff_gt, compare_eq_iff_eq, compare_gt_iff_gt]

theorem then_isLE {e e' : ℤ} {m m' : ℕ} :
    ((compare e e').then (compare m m')).isLE = true ↔ e < e' ∨ e = e' ∧ m ≤ m' := by
  rw [Ordering.isLE_iff_ne_gt, then_eq_gt]
  omega

theorem then_isGE {e e' : ℤ} {m m' : ℕ} :
    ((compare e e').then (compare m m')).isGE = true ↔ e' < e ∨ e = e' ∧ m' ≤ m := by
  rw [Ordering.isGE_iff_ne_lt, then_eq_lt]
  omega

theorem unpacked_lt_iff (a b : UnpackedFloat) :
    a.lt b = true ↔ ∃ x ∈ place? a, ∃ y ∈ place? b, x < y := by
  rcases a with (_ | _) | _ | _ | ⟨_ | _, m, e, -⟩ <;>
    rcases b with (_ | _) | _ | _ | ⟨_ | _, m', e', -⟩ <;>
    dsimp only [UnpackedFloat.lt, UnpackedFloat.compare, place?] <;>
    simp [place_lt, then_eq_lt, then_eq_gt]
  rfl

theorem unpacked_le_iff (a b : UnpackedFloat) :
    a.le b = true ↔ ∃ x ∈ place? a, ∃ y ∈ place? b, x ≤ y := by
  rcases a with (_ | _) | _ | _ | ⟨_ | _, m, e, -⟩ <;>
    rcases b with (_ | _) | _ | _ | ⟨_ | _, m', e', -⟩ <;>
    dsimp only [UnpackedFloat.le, UnpackedFloat.compare, place?] <;>
    simp [place_le, then_isLE, then_isGE]
  all_goals rfl

variable {a b c : Float}

theorem lt_iff : a < b ↔
    ∃ x ∈ place? a.toModel.unpack, ∃ y ∈ place? b.toModel.unpack, x < y :=
  decide_eq_true_iff.trans (unpacked_lt_iff _ _)

theorem le_iff : a ≤ b ↔
    ∃ x ∈ place? a.toModel.unpack, ∃ y ∈ place? b.toModel.unpack, x ≤ y :=
  decide_eq_true_iff.trans (unpacked_le_iff _ _)

theorem not_lt_of_le (h : a ≤ b) : ¬ b < a := by
  obtain ⟨x, hx, y, hy, hxy⟩ := le_iff.1 h
  intro hlt
  obtain ⟨y', hy', x', hx', hyx⟩ := lt_iff.1 hlt
  obtain rfl : x = x' := Option.some.inj (hx.symm.trans hx')
  obtain rfl : y = y' := Option.some.inj (hy.symm.trans hy')
  exact not_lt_of_ge hxy hyx

theorem lt_irrefl (a : Float) : ¬ a < a := by
  intro h
  obtain ⟨x, hx, y, hy, hxy⟩ := lt_iff.1 h
  obtain rfl : x = y := Option.some.inj (hx.symm.trans hy)
  exact absurd rfl hxy.ne

theorem lt_of_lt_of_le (h : a < b) (h' : b ≤ c) : a < c := by
  obtain ⟨x, hx, y, hy, hxy⟩ := lt_iff.1 h
  obtain ⟨y', hy', z, hz, hyz⟩ := le_iff.1 h'
  obtain rfl : y = y' := Option.some.inj (hy.symm.trans hy')
  exact lt_iff.2 ⟨x, hx, z, hz, hxy.trans_le hyz⟩

theorem lt_of_le_of_lt (h : a ≤ b) (h' : b < c) : a < c := by
  obtain ⟨x, hx, y, hy, hxy⟩ := le_iff.1 h
  obtain ⟨y', hy', z, hz, hyz⟩ := lt_iff.1 h'
  obtain rfl : y = y' := Option.some.inj (hy.symm.trans hy')
  exact lt_iff.2 ⟨x, hx, z, hz, hxy.trans_lt hyz⟩

end FloatOrder

end DialogueStore
