/-
How numbers are written, and how what is written is split again.

A number is written as a numeral: a sign, whole digits, decimals and an exponent, of which all
but the whole digits may be missing.  The reader splits a numeral off the front of a text
exactly at its end, if what follows does not go on with it (`splitNumber_text`).

* `print_cases` — a finite number is written as a numeral, a double with decimals or an
  exponent, and a double that is not finite as null,
* `value_ofWhole` — a whole number of 64 bits is read back,
* `exists_float_of_value` — a numeral with decimals or an exponent is a double at most.

Which double that is, is not said here: the reader rounds the digits to a double first and
scales it then (`Reader.scale`), so that it may miss the one that was written.
-/
import DialogueStore.Json.Printer
import DialogueStore.Json.Reader

namespace DialogueStore

namespace Json

namespace Reader

/-! ### Numerals -/

/-- Decimal digits, one at least. -/
def Digits (ds : List Char) : Prop := ds ≠ [] ∧ ∀ c ∈ ds, isDigit c = true

def decimalsText : Option (List Char) → List Char
  | none => []
  | some ds => '.' :: ds

def powerText : Option (Bool × List Char) → List Char
  | none => []
  | some (negative, ds) => 'e' :: (if negative then '-' else '+') :: ds

namespace NumberText

/-- A numeral as it is written. -/
def text (t : NumberText) : List Char :=
  (if t.negative then ['-'] else []) ++
    (t.whole ++ (decimalsText t.decimals ++ powerText t.exponent))

/-- A numeral has digits wherever it must, and no zero in front of others. -/
structure Proper (t : NumberText) : Prop where
  whole : Digits t.whole
  noZero : t.whole.head? = some '0' → t.whole.length = 1
  decimals : ∀ ds ∈ t.decimals, Digits ds
  exponent : ∀ e ∈ t.exponent, Digits e.2

end NumberText

/-- No digit comes next. -/
def NoDigit (rest : List Char) : Prop := ∀ c ∈ rest.head?, isDigit c = false

/-- What comes next does not go on with a numeral. -/
structure Ends (rest : List Char) : Prop where
  noDigit : NoDigit rest
  noPoint : rest.head? ≠ some '.'
  noPower : rest.head? ≠ some 'e' ∧ rest.head? ≠ some 'E'

section Splitting

variable {t : NumberText} {rest ds : List Char}

theorem splitDigits_append (hds : Digits ds) (hrest : NoDigit rest) :
    splitDigits (ds ++ rest) = some (ds, rest) := by
  have hstop : rest.takeWhile isDigit = [] ∧ rest.dropWhile isDigit = rest := by
    cases rest with
    | nil => exact ⟨rfl, rfl⟩
    | cons c rest => simp [show isDigit c = false from hrest c rfl]
  simp [splitDigits, List.takeWhile_append_of_pos hds.2, List.dropWhile_append_of_pos hds.2,
    hstop, hds.1]

theorem splitWhole_append (hds : Digits ds) (hzero : ds.head? = some '0' → ds.length = 1)
    (hrest : NoDigit rest) : splitWhole (ds ++ rest) = some (ds, rest) := by
  rw [splitWhole, splitDigits_append hds hrest]
  simp only [Option.bind_eq_bind, Option.bind_some]
  rw [if_neg]
  intro hmore
  rw [Bool.and_eq_true, decide_eq_true_eq, decide_eq_true_eq] at hmore
  have hone := hzero hmore.1
  omega

theorem splitDecimals_append {decimals : Option (List Char)} (h : ∀ ds ∈ decimals, Digits ds)
    (hrest : NoDigit rest) (hpoint : rest.head? ≠ some '.') :
    splitDecimals (decimalsText decimals ++ rest) = some (decimals, rest) := by
  cases decimals with
  | some ds =>
    show (splitDigits (ds ++ rest)).bind _ = _
    rw [splitDigits_append (h ds rfl) hrest]
    rfl
  | none =>
    cases rest with
    | nil => rfl
    | cons c rest =>
      refine splitDecimals.eq_2 _ ?_
      rintro cs ⟨⟩
      exact hpoint rfl

theorem splitExponent_append {exponent : Option (Bool × List Char)}
    (h : ∀ e ∈ exponent, Digits e.2) (hrest : Ends rest) :
    splitExponent (powerText exponent ++ rest) = some (exponent, rest) := by
  cases exponent with
  | some e =>
    obtain ⟨negative, ds⟩ := e
    have hsplit := splitDigits_append (h (negative, ds) rfl) hrest.noDigit
    cases negative <;> simp [powerText, splitExponent, splitPower, hsplit]
  | none =>
    cases rest with
    | nil => rfl
    | cons c rest =>
      refine splitExponent.eq_3 _ ?_ ?_
      · rintro cs ⟨⟩
        exact hrest.noPower.1 rfl
      · rintro cs ⟨⟩
        exact hrest.noPower.2 rfl

theorem noDigit_powerText (exponent : Option (Bool × List Char)) (hrest : Ends rest) :
    NoDigit (powerText exponent ++ rest) ∧ (powerText exponent ++ rest).head? ≠ some '.' := by
  cases exponent with
  | none => exact ⟨hrest.noDigit, hrest.noPoint⟩
  | some e =>
    refine ⟨?_, by simp [powerText]⟩
    rintro c ⟨⟩
    rfl

theorem noDigit_decimalsText (decimals : Option (List Char)) (hrest : NoDigit rest) :
    NoDigit (decimalsText decimals ++ rest) := by
  cases decimals with
  | none => exact hrest
  | some ds =>
    rintro c ⟨⟩
    rfl

/-- **A numeral is split off exactly at its end.** -/
theorem splitNumber_text (h : t.Proper) (hrest : Ends rest) :
    splitNumber (t.text ++ rest) = some (t, rest) := by
  obtain ⟨negative, whole, decimals, exponent⟩ := t
  obtain ⟨hwhole, hzero, hdecimals, hexponent⟩ := h
  have hpower := noDigit_powerText exponent hrest
  have hsplitWhole := splitWhole_append hwhole hzero
    (noDigit_decimalsText decimals hpower.1)
  have hsplitDecimals := splitDecimals_append hdecimals hpower.1 hpower.2
  have hsplitExponent := splitExponent_append hexponent hrest
  dsimp only at hsplitWhole hsplitDecimals hsplitExponent
  cases negative with
  | true =>
    simp [NumberText.text, splitNumber, hsplitWhole, hsplitDecimals, hsplitExponent]
  | false =>
    -- The first digit is no sign.
    obtain ⟨d, ds, rfl⟩ := List.exists_cons_of_ne_nil hwhole.1
    have hd : d ≠ '-' := by
      rintro rfl
      exact absurd (hwhole.2 '-' List.mem_cons_self) (by decide)
    simp only [NumberText.text, List.append_assoc, Bool.false_eq_true, if_false, List.nil_append]
    rw [List.cons_append] at hsplitWhole
    simp [splitNumber, hsplitWhole, hsplitDecimals, hsplitExponent, hd]

end Splitting

/-! ### Values -/

namespace NumberText

variable {t : NumberText}

/-- What is read of a numeral. -/
def source (t : NumberText) : Source :=
  match t.value with
  | some n => .number n
  | none => .flaw .unreadable

theorem readNumber_text {rest : List Char} (h : t.Proper) (hrest : Ends rest) :
    readNumber (t.text ++ rest) = (t.source, some rest) := by
  rw [readNumber, splitNumber_text h hrest]
  simp only [source]
  cases t.value <;> rfl

/-- A numeral with decimals or an exponent is a double at most. -/
theorem exists_float_of_realValue {n : Number} (h : t.realValue = some n) : ∃ x, n = .float x := by
  rw [realValue] at h
  dsimp only at h
  split at h
  · obtain ⟨x, -, rfl⟩ := Option.map_eq_some_iff.1 h
    exact ⟨_, rfl⟩
  · split at h
    · split at h
      · cases h
      · cases h
        exact ⟨_, rfl⟩
    · obtain ⟨x, -, rfl⟩ := Option.map_eq_some_iff.1 h
      exact ⟨_, rfl⟩

end NumberText

/-! ### Whole numbers -/

theorem isDigit_of_mem_toDigits {n : Nat} {c : Char} (hc : c ∈ Nat.toDigits 10 n) :
    isDigit c = true := by
  have hdigit := Nat.isDigit_of_mem_toDigits (by omega) (by omega) hc
  simpa [Char.isDigit, isDigit, Char.le_def] using hdigit

theorem digits_toDigits (n : Nat) : Digits (Nat.toDigits 10 n) :=
  ⟨Nat.toDigits_ne_nil, fun _ => isDigit_of_mem_toDigits⟩

theorem digitChar_ne_zero : ∀ n < 10, n ≠ 0 → n.digitChar ≠ '0' := by decide

/-- No number but zero starts with a zero. -/
theorem head?_toDigits_ne {n : Nat} (h : n ≠ 0) : (Nat.toDigits 10 n).head? ≠ some '0' := by
  induction n using Nat.strongRecOn with
  | _ n ih =>
    by_cases hn : n < 10
    · rw [Nat.toDigits_of_lt_base hn]
      simpa using digitChar_ne_zero n hn h
    · obtain ⟨d, ds, hds⟩ :=
        List.exists_cons_of_ne_nil (Nat.toDigits_ne_nil (n := n / 10) (b := 10))
      have hhead := ih (n / 10) (by omega) (by omega)
      rw [Nat.toDigits_of_base_le (by omega) (by omega), hds]
      rwa [hds] at hhead

namespace NumberText

/-- The numeral of a whole number. -/
def ofWhole (n : Int) : NumberText := ⟨decide (n < 0), Nat.toDigits 10 n.natAbs, none, none⟩

theorem proper_ofWhole (n : Int) : (ofWhole n).Proper where
  whole := digits_toDigits _
  noZero := by
    intro hzero
    by_cases hn : n.natAbs = 0
    · simp [ofWhole, hn]
    · exact absurd hzero (head?_toDigits_ne hn)
  decimals := nofun
  exponent := nofun

theorem toList_print_int (n : Int) : (Number.print (.int n)).toList = (ofWhole n).text := by
  show (toString n).toList = _
  rw [Int.toString_eq_repr, Int.repr_eq_if]
  split
  · rename_i hn
    have hpos : ¬ n < 0 := by omega
    have habs : n.toNat = n.natAbs := by omega
    simp [ofWhole, text, decimalsText, powerText, hpos, habs]
  · rename_i hn
    have hneg : n < 0 := by omega
    have habs : (-n).toNat = n.natAbs := by omega
    simp [ofWhole, text, decimalsText, powerText, hneg, habs]

/-- Digits that fit 64 bits are all taken. -/
theorem takeWhole_eq {n : Nat} (ds : List Char)
    (hfits : fits64 (Nat.ofDigitChars 10 ds n) = true) :
    takeWhole n ds = (Nat.ofDigitChars 10 ds n, 0) := by
  induction ds generalizing n with
  | nil => rw [takeWhole, Nat.ofDigitChars_nil]
  | cons c ds ih =>
    rw [Nat.ofDigitChars_cons] at hfits ⊢
    have hnext : n * 10 + digitValue c = 10 * n + (c.toNat - '0'.toNat) := by
      rw [Nat.mul_comm]
      rfl
    have hlarger : 10 * n + (c.toNat - '0'.toNat) ≤
        Nat.ofDigitChars 10 ds (10 * n + (c.toNat - '0'.toNat)) := by
      rw [Nat.ofDigitChars_eq_ofDigitChars_zero]
      have hpos : 0 < 10 ^ ds.length := Nat.pow_pos (by omega)
      exact Nat.le_trans (Nat.le_mul_of_pos_left _ hpos) (Nat.le_add_right _ _)
    have hhead : fits64 (10 * n + (c.toNat - '0'.toNat)) = true := by
      simp only [fits64, decide_eq_true_eq] at hfits ⊢
      omega
    rw [takeWhole, hnext, hhead]
    exact ih hfits

/-- **A whole number of 64 bits is read back.** -/
theorem value_ofWhole {n : Int} (hlow : -0x8000000000000000 ≤ n) (hhigh : n < 0x10000000000000000) :
    (ofWhole n).value = some (.int n) := by
  have hfits : fits64 n.natAbs = true := by
    simp only [fits64, decide_eq_true_eq]
    omega
  have hwhole : takeWhole 0 (ofWhole n).whole = (n.natAbs, 0) := by
    have htaken := takeWhole_eq (n := 0) (Nat.toDigits 10 n.natAbs)
    rw [Nat.ofDigitChars_ten_toDigits] at htaken
    exact htaken hfits
  show (ofWhole n).wholeValue = _
  rw [wholeValue, hwhole]
  dsimp only
  rw [if_neg (by decide)]
  by_cases hn : n < 0
  · have hsign : (ofWhole n).negative = true := decide_eq_true hn
    have hneg : -(n.natAbs : Int) = n := by omega
    have hsmall : (decide (n.natAbs = 0) || decide (n.natAbs > 0x8000000000000000)) = false := by
      rw [Bool.or_eq_false_iff, decide_eq_false_iff_not, decide_eq_false_iff_not]
      omega
    rw [hsign, if_neg (by decide), hsmall, if_neg (by decide), hneg]
  · have hsign : (ofWhole n).negative = false := decide_eq_false hn
    have hpos : (n.natAbs : Int) = n := by omega
    rw [hsign, if_pos (by decide), hpos]

end NumberText

end Reader

end Json

namespace Decimal

open Json.Reader

/-! ### Doubles -/

variable {d : Decimal}

theorem normalize_digits_ne (h : d.digits ≠ 0) : d.normalize.digits ≠ 0 := by
  induction d using normalize.induct with
  | case1 d hd ih =>
    rw [normalize, dif_pos hd]
    exact ih (by dsimp only; omega)
  | case2 d hd =>
    rwa [normalize, dif_neg hd]

theorem onGrid_digits_ne {b : Binary} {tie : Tie} {lead : Int} {places : Nat}
    (h : onGrid b tie lead places = some d) : d.digits ≠ 0 := by
  simp only [onGrid] at h
  -- Neither neighbour on the grid reads back as the number, one of them does, or both do.
  split at h
  · cases h
  · rename_i hbelow _
    cases h
    rw [Bool.and_eq_true, decide_eq_true_eq] at hbelow
    exact hbelow.2
  · cases h
    exact Nat.succ_ne_zero _
  · rename_i hbelow _
    rw [Bool.and_eq_true, decide_eq_true_eq] at hbelow
    have hc := hbelow.2
    split at h
    · cases h
      exact hc
    · split at h
      · cases h
        exact Nat.succ_ne_zero _
      · cases tie with
        | up =>
          cases h
          exact Nat.succ_ne_zero _
        | toEven =>
          cases h
          dsimp only
          split
          · exact hc
          · exact Nat.succ_ne_zero _

theorem shortest_digits_ne {b : Binary} (hb : b.significand ≠ 0) (tie : Tie) :
    (shortest b tie).digits ≠ 0 := by
  refine normalize_digits_ne ?_
  cases hfound : (List.range 17).findSome? fun n => onGrid b tie
      (leadingExponent (b.significand * Nat.pow 2 b.exponent.toNat)
        (Nat.pow 2 (-b.exponent).toNat)) (n + 1) with
  | none => exact hb
  | some d =>
    obtain ⟨n, -, hgrid⟩ := List.exists_of_findSome?_eq_some hfound
    exact onGrid_digits_ne hgrid

/-- A numeral for a double: it is proper, and not a whole number. -/
structure IsReal (t : NumberText) : Prop where
  proper : t.Proper
  notWhole : (t.decimals.isNone && t.exponent.isNone) = false

/-- Digits with a point behind the first `n` of them. -/
theorem isReal_point {ds : List Char} {n : Nat} (hds : Digits ds) (hhead : ds.head? ≠ some '0')
    (hpos : 0 < n) (hlt : n < ds.length) :
    IsReal ⟨false, ds.take n, some (ds.drop n), none⟩ where
  proper := by
    refine ⟨⟨?_, fun c hc => hds.2 c (List.mem_of_mem_take hc)⟩, ?_, ?_, nofun⟩
    · refine List.ne_nil_of_length_pos ?_
      rw [List.length_take]
      omega
    · intro hzero
      rw [List.head?_take, if_neg (by omega)] at hzero
      exact absurd hzero hhead
    · rintro _ ⟨⟩
      refine ⟨?_, fun c hc => hds.2 c (List.mem_of_mem_drop hc)⟩
      refine List.ne_nil_of_length_pos ?_
      rw [List.length_drop]
      omega
  notWhole := rfl

/-- A positive decimal is written as a numeral with decimals or an exponent. -/
theorem exists_text_of_writeDecimal (hd : d.digits ≠ 0) :
    ∃ t, IsReal t ∧ t.negative = false ∧ (jsonLayout.writeDecimal d).toList = t.text := by
  have hds := digits_toDigits d.digits
  have hhead := head?_toDigits_ne hd
  have hzeros : ∀ n, Digits ['0'] ∧ ∀ c ∈ List.replicate n '0', isDigit c = true :=
    fun n => ⟨⟨nofun, List.forall_mem_singleton.2 rfl⟩,
      fun c hc => List.eq_of_mem_replicate hc ▸ rfl⟩
  rw [Layout.writeDecimal]
  generalize Nat.toDigits 10 d.digits = ds at hds hhead ⊢
  generalize hpoint : (ds.length : Int) + d.exponent = point
  dsimp only
  split
  · split
    · -- A whole number is written with one decimal, which is zero.
      refine ⟨⟨false, ds ++ List.replicate (point - ds.length).toNat '0', some ['0'], none⟩,
        ⟨⟨⟨?_, ?_⟩, ?_, ?_, nofun⟩, rfl⟩, rfl, ?_⟩
      · exact List.append_ne_nil_of_left_ne_nil hds.1 _
      · exact List.forall_mem_append.2 ⟨hds.2, (hzeros _).2⟩
      · intro hzero
        obtain ⟨c, cs, rfl⟩ := List.exists_cons_of_ne_nil hds.1
        exact absurd hzero hhead
      · rintro _ ⟨⟩
        exact (hzeros 0).1
      · simp [NumberText.text, decimalsText, powerText, zeros, jsonLayout]
    · split
      · -- The point stands between two digits.
        refine ⟨⟨false, ds.take point.toNat, some (ds.drop point.toNat), none⟩,
          isReal_point hds hhead (by omega) (by omega), rfl, ?_⟩
        simp [NumberText.text, decimalsText, powerText]
      · -- There are zeros behind the point.
        refine ⟨⟨false, ['0'], some (List.replicate (-point).toNat '0' ++ ds), none⟩,
          ⟨⟨(hzeros 0).1, fun _ => rfl, ?_, nofun⟩, rfl⟩, rfl, ?_⟩
        · rintro _ ⟨⟩
          exact ⟨List.append_ne_nil_of_right_ne_nil _ hds.1,
            List.forall_mem_append.2 ⟨(hzeros _).2, hds.2⟩⟩
        · simp [NumberText.text, decimalsText, powerText, zeros]
  · -- One digit stands before the point, and the exponent is written.
    obtain ⟨c, rest, rfl⟩ := List.exists_cons_of_ne_nil hds.1
    have hc : Digits [c] := ⟨nofun, by simpa using hds.2 c List.mem_cons_self⟩
    refine ⟨⟨false, [c], if rest = [] then none else some rest,
      some (decide (point - 1 < 0), Nat.toDigits 10 (point - 1).natAbs)⟩,
      ⟨⟨hc, fun _ => rfl, ?_, ?_⟩, by simp⟩, rfl, ?_⟩
    · intro ds hds'
      dsimp only at hds'
      split at hds'
      · cases hds'
      · cases hds'
        exact ⟨by assumption, fun c hc => hds.2 c (List.mem_cons_of_mem _ hc)⟩
    · rintro _ ⟨⟩
      exact digits_toDigits _
    · cases rest <;> by_cases hneg : point - 1 < 0 <;>
        simp [NumberText.text, decimalsText, powerText, hneg]

/-- A double is finite unless all bits of its exponent are set. -/
theorem isFinite_iff (x : Float) :
    x.isFinite = true ↔ x.toBits.toNat / 0x10000000000000 % 0x800 ≠ 2047 := by
  -- The exponent field is read off the bits on both sides.
  have hexponent : @Float.Model.UnpackedFloat.unpackExponent .binary64 x.toBits.toBitVec = -1#11 ↔
      x.toBits.toNat / 0x10000000000000 % 0x800 = 2047 := by
    rw [← BitVec.toNat_inj]
    simp [Float.Model.UnpackedFloat.unpackExponent, Nat.shiftRight_eq_div_pow]
  show (Float.Model.UnpackedFloat.unpack .binary64 x.toBits.toBitVec).isFinite = true ↔ _
  rw [Ne, ← hexponent]
  delta Float.Model.UnpackedFloat.unpack
  dsimp only
  by_cases hall : @Float.Model.UnpackedFloat.unpackExponent .binary64 x.toBits.toBitVec = -1#11
  · rw [if_pos hall]
    refine iff_of_false ?_ (not_not_intro hall)
    by_cases hzero : @Float.Model.UnpackedFloat.unpackMantissa .binary64 x.toBits.toBitVec = 0#52
    · rw [if_pos hzero]
      exact Bool.false_ne_true
    · rw [if_neg hzero]
      exact Bool.false_ne_true
  · rw [if_neg hall]
    refine iff_of_true ?_ hall
    by_cases hlow : @Float.Model.UnpackedFloat.unpackExponent .binary64 x.toBits.toBitVec = 0#11
    · rw [if_pos hlow]
      by_cases hzero :
          @Float.Model.UnpackedFloat.unpackMantissa .binary64 x.toBits.toBitVec = 0#52
      · rw [dif_pos hzero]
        rfl
      · rw [dif_neg hzero]
        rfl
    · rw [if_neg hlow]
      rfl

/-- What the bits of a double say of it. -/
theorem decode_cases (x : Float) :
    x.isFinite = false ∧ ((decode x).2 = .nan ∨ (decode x).2 = .infinite) ∨
      x.isFinite = true ∧
        ((decode x).2 = .zero ∨ ∃ b, (decode x).2 = .finite b ∧ b.significand ≠ 0) := by
  have hfinite := isFinite_iff x
  rw [decode]
  dsimp only
  generalize x.toBits.toNat / 0x10000000000000 % 0x800 = biased at hfinite ⊢
  generalize x.toBits.toNat % 0x10000000000000 = fraction
  split
  · rename_i hall
    refine .inl ⟨Bool.eq_false_iff.2 fun h => hfinite.1 h hall, ?_⟩
    split
    · exact .inr rfl
    · exact .inl rfl
  · rename_i hnot
    refine .inr ⟨hfinite.2 hnot, ?_⟩
    split
    · split
      · exact .inl rfl
      · exact .inr ⟨_, rfl, by assumption⟩
    · exact .inr ⟨_, rfl, by dsimp only; omega⟩

/-- A double is written as null if it is not finite, and else as a numeral. -/
theorem write_cases (x : Float) : x.isFinite = false ∧ jsonLayout.write x = "null" ∨
    x.isFinite = true ∧ ∃ t, IsReal t ∧ (jsonLayout.write x).toList = t.text := by
  have hcases := decode_cases x
  rw [Layout.write]
  generalize decode x = decoded at hcases ⊢
  obtain ⟨negative, magnitude⟩ := decoded
  dsimp only at hcases ⊢
  rcases hcases with ⟨hfinite, rfl | rfl⟩ | ⟨hfinite, rfl | ⟨b, rfl, hpos⟩⟩
  · exact .inl ⟨hfinite, rfl⟩
  · exact .inl ⟨hfinite, rfl⟩
  · have hzero : Digits ['0'] := ⟨nofun, List.forall_mem_singleton.2 rfl⟩
    refine .inr ⟨hfinite, ⟨negative, ['0'], some ['0'], none⟩,
      ⟨⟨hzero, fun _ => rfl, ?_, nofun⟩, rfl⟩, ?_⟩
    · rintro _ ⟨⟩
      exact hzero
    · cases negative <;> rfl
  · obtain ⟨t, ht, hsign, htext⟩ := exists_text_of_writeDecimal (shortest_digits_ne hpos .toEven)
    refine .inr ⟨hfinite, { t with negative },
      ⟨⟨ht.proper.whole, ht.proper.noZero, ht.proper.decimals, ht.proper.exponent⟩,
        ht.notWhole⟩, ?_⟩
    rw [NumberText.text, hsign] at htext
    cases negative <;> simpa [NumberText.text, jsonLayout] using htext

end Decimal

end DialogueStore
