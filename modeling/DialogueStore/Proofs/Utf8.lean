/-
Bytes are the text of one text at most.

Decoding takes one sequence of bytes after the other, and each of them is what encoding makes
of one character: the bounds on the second byte leave out exactly the sequences of no character
and those that are longer than need be.

* `Utf8.Sequence` — the sequences, with the numbers that they stand for,
* `Utf8.next_eq_some` — a character is read where its bytes stand,
* `Utf8.decode?_eq_some` — bytes are decoded to a text if they are the bytes of this text, and
  otherwise not at all.
-/
import Mathlib.Tactic.IntervalCases
import DialogueStore.Text.Utf8

namespace DialogueStore

namespace Utf8

/-! ### The bytes of a text -/

theorem toList_loop (bytes : ByteArray) (i : Nat) (read : List UInt8) :
    ByteArray.toList.loop bytes i read = read.reverse ++ bytes.data.toList.drop i := by
  have hsize : bytes.size = bytes.data.toList.length := Array.length_toList.symm
  induction hn : bytes.size - i generalizing i read with
  | zero =>
    rw [ByteArray.toList.loop, if_neg (by omega), List.drop_eq_nil_of_le (by omega),
      List.append_nil]
  | succ n ih =>
    have hlt : i < bytes.data.toList.length := by omega
    have hget : bytes.get! i = bytes.data.toList[i] := by
      simp [ByteArray.get!, getElem!_pos, hsize ▸ hlt]
    rw [ByteArray.toList.loop, if_pos (by omega), ih (i + 1) _ (by omega),
      List.drop_eq_getElem_cons hlt, hget, List.reverse_cons, List.append_assoc]
    rfl

/-- The bytes of a text are those of its characters. -/
theorem encode_eq (s : String) : encode s = s.toList.flatMap String.utf8EncodeChar := by
  have htext : s.toUTF8 = s.toList.utf8Encode := by
    conv_lhs => rw [← String.ofList_toList (s := s)]
    exact String.toByteArray_ofList
  rw [encode, htext, ByteArray.toList, toList_loop, List.utf8Encode, List.data_toByteArray]
  simp

theorem length_encode (s : String) : (encode s).length = s.utf8ByteSize := by
  rw [encode, ByteArray.toList, toList_loop]
  simp

/-! ### Sequences -/

variable {b : UInt8} {bytes : List UInt8} {n v x y z : Nat} {rest rest' : List UInt8} {c : Char}

theorem ofNat_sub_add {k : Nat} (h : k ≤ b.toNat) : UInt8.ofNat (b.toNat - k + k) = b := by
  rw [Nat.sub_add_cancel h, UInt8.ofNat_toNat]

/-- The byte that goes on with a sequence by six bits of its number. -/
def follow (x : Nat) : UInt8 := UInt8.ofNat (x + 128)

theorem toNat_follow (h : x < 64) : (follow x).toNat = x + 128 :=
  UInt8.toNat_ofNat_of_lt' (show x + 128 < 256 by omega)

theorem follow_le_follow (hx : x < 64) (hy : y < 64) : follow x ≤ follow y ↔ x ≤ y := by
  rw [UInt8.le_iff_toNat_le, toNat_follow hx, toNat_follow hy]
  omega

theorem exists_follow (h : 0x80 ≤ b ∧ b ≤ 0xbf) : ∃ x < 64, b = follow x := by
  have hlo : 128 ≤ b.toNat := UInt8.le_iff_toNat_le.1 h.1
  have hhi : b.toNat ≤ 191 := UInt8.le_iff_toNat_le.1 h.2
  exact ⟨b.toNat - 128, by omega, (ofNat_sub_add hlo).symm⟩

/-- The bytes that lead a sequence, with what they ask of the next byte. -/
inductive Leads : UInt8 → Lead → Prop
  | two {n : Nat} (hlo : 2 ≤ n) (hhi : n < 32) :
    Leads (UInt8.ofNat (n + 192)) ⟨follow 0, follow 63, 0, n⟩
  | three {n : Nat} (hhi : n < 16) : Leads (UInt8.ofNat (n + 224))
      ⟨follow (if n = 0 then 32 else 0), follow (if n = 13 then 31 else 63), 1, n⟩
  | four {n : Nat} (hhi : n < 5) : Leads (UInt8.ofNat (n + 240))
      ⟨follow (if n = 0 then 16 else 0), follow (if n = 4 then 15 else 63), 2, n⟩

theorem lead?_eq_some {l : Lead} : lead? b = some l ↔ Leads b l := by
  constructor
  · intro h
    rw [lead?] at h
    simp only [UInt8.le_iff_toNat_le, ← UInt8.toNat_inj, UInt8.reduceToNat] at h
    -- Four leads bound the next byte more narrowly than the others of their length do.
    split_ifs at h with h2 h0 h13 h3 h0 h4 h4
    · have := Leads.two (n := b.toNat - 192) (by omega) (by omega)
      rw [ofNat_sub_add (by omega)] at this
      exact Option.some.inj h ▸ this
    · have hb : b = 0xe0 := UInt8.toNat_inj.1 h0
      exact hb ▸ Option.some.inj h ▸ Leads.three (n := 0) (by omega)
    · have hb : b = 0xed := UInt8.toNat_inj.1 h13
      exact hb ▸ Option.some.inj h ▸ Leads.three (n := 13) (by omega)
    · have := Leads.three (n := b.toNat - 224) (by omega)
      rw [ofNat_sub_add (by omega), if_neg (by omega), if_neg (by omega)] at this
      exact Option.some.inj h ▸ this
    · have hb : b = 0xf0 := UInt8.toNat_inj.1 h0
      exact hb ▸ Option.some.inj h ▸ Leads.four (n := 0) (by omega)
    · have := Leads.four (n := b.toNat - 240) (by omega)
      rw [ofNat_sub_add (by omega), if_neg (by omega), if_neg (by omega)] at this
      exact Option.some.inj h ▸ this
    · have hb : b = 0xf4 := UInt8.toNat_inj.1 h4
      exact hb ▸ Option.some.inj h ▸ Leads.four (n := 4) (by omega)
  · intro h
    cases h with
    | two hlo hhi => interval_cases ‹Nat› <;> rfl
    | three hhi => interval_cases ‹Nat› <;> rfl
    | four hhi => interval_cases ‹Nat› <;> rfl

/-- The sequences, with the numbers that they stand for: none of a surrogate, none beyond the code
points, and none that is longer than need be. -/
inductive Sequence : List UInt8 → Nat → Prop
  | one {n : Nat} (hn : n < 128) : Sequence [UInt8.ofNat n] n
  | two {n x : Nat} (hlo : 2 ≤ n) (hhi : n < 32) (hx : x < 64) :
    Sequence [UInt8.ofNat (n + 192), follow x] (n * 64 + x)
  | three {n x y : Nat} (hn : n < 16) (hlo : (if n = 0 then 32 else 0) ≤ x)
      (hhi : x ≤ if n = 13 then 31 else 63) (hy : y < 64) :
    Sequence [UInt8.ofNat (n + 224), follow x, follow y] ((n * 64 + x) * 64 + y)
  | four {n x y z : Nat} (hn : n < 5) (hlo : (if n = 0 then 16 else 0) ≤ x)
      (hhi : x ≤ if n = 4 then 15 else 63) (hy : y < 64) (hz : z < 64) :
    Sequence [UInt8.ofNat (n + 240), follow x, follow y, follow z]
      (((n * 64 + x) * 64 + y) * 64 + z)

/-- The number of a sequence is that of a character. -/
theorem Sequence.isValidChar (h : Sequence bytes v) : v.isValidChar := by
  rw [Nat.isValidChar]
  cases h with
  | one hn | two hlo hhi hx => omega
  | three hn hlo hhi hy | four hn hlo hhi hy hz =>
    split_ifs at hlo hhi <;> omega

/-- The bytes of a character are the sequence of its number. -/
theorem sequence_encodeChar (c : Char) : Sequence (String.utf8EncodeChar c) c.toNat := by
  -- That a character is no surrogate is what bounds the second byte of three.
  have hvalid : c.toNat < 0xd800 ∨ 0xdfff < c.toNat ∧ c.toNat < 0x110000 := c.valid
  have hc : c.val.toNat = c.toNat := rfl
  rw [String.utf8EncodeChar]
  simp only [hc]
  split_ifs with h1 h2 h3
  · exact .one (by omega)
  · have h := Sequence.two (n := c.toNat / 64 % 32) (x := c.toNat % 64) (by omega) (by omega)
      (by omega)
    rw [show c.toNat / 64 % 32 * 64 + c.toNat % 64 = c.toNat by omega] at h
    exact h
  · have h := Sequence.three (n := c.toNat / 4096 % 16) (x := c.toNat / 64 % 64)
      (y := c.toNat % 64) (by omega) (by split_ifs <;> omega) (by split_ifs <;> omega) (by omega)
    rw [show (c.toNat / 4096 % 16 * 64 + c.toNat / 64 % 64) * 64 + c.toNat % 64 = c.toNat by
      omega] at h
    exact h
  · have h := Sequence.four (n := c.toNat / 262144 % 8) (x := c.toNat / 4096 % 64)
      (y := c.toNat / 64 % 64) (z := c.toNat % 64) (by omega) (by split_ifs <;> omega)
      (by split_ifs <;> omega) (by omega) (by omega)
    rw [show ((c.toNat / 262144 % 8 * 64 + c.toNat / 4096 % 64) * 64 + c.toNat / 64 % 64) * 64 +
      c.toNat % 64 = c.toNat by omega] at h
    exact h

/-- A sequence is the bytes of the character that it stands for. -/
theorem Sequence.eq_encodeChar (h : Sequence bytes v) :
    bytes = String.utf8EncodeChar (Char.ofNat v) := by
  have hv : (Char.ofNat v).val.toNat = v := by
    rw [Char.ofNat, dif_pos h.isValidChar]
    rfl
  rw [String.utf8EncodeChar]
  simp only [hv]
  cases h with
  | one hn => rw [if_pos (by omega)]
  | @two n x hlo hhi hx =>
    rw [if_neg (by omega), if_pos (by omega), show (n * 64 + x) / 64 % 32 = n by omega,
      show (n * 64 + x) % 64 = x by omega]
    rfl
  | @three n x y hn hlo hhi hy =>
    -- The bounds of the second byte exclude what a shorter sequence could have said.
    have hlong : 2048 ≤ (n * 64 + x) * 64 + y := by split_ifs at hlo <;> omega
    have hx : x < 64 := by split_ifs at hhi <;> omega
    rw [if_neg (by omega), if_neg (by omega), if_pos (by omega),
      show ((n * 64 + x) * 64 + y) / 4096 % 16 = n by omega,
      show ((n * 64 + x) * 64 + y) / 64 % 64 = x by omega,
      show ((n * 64 + x) * 64 + y) % 64 = y by omega]
    rfl
  | @four n x y z hn hlo hhi hy hz =>
    have hlong : 65536 ≤ ((n * 64 + x) * 64 + y) * 64 + z := by split_ifs at hlo <;> omega
    have hx : x < 64 := by split_ifs at hhi <;> omega
    rw [if_neg (by omega), if_neg (by omega), if_neg (by omega),
      show (((n * 64 + x) * 64 + y) * 64 + z) / 262144 % 8 = n by omega,
      show (((n * 64 + x) * 64 + y) * 64 + z) / 4096 % 64 = x by omega,
      show (((n * 64 + x) * 64 + y) * 64 + z) / 64 % 64 = y by omega,
      show (((n * 64 + x) * 64 + y) * 64 + z) % 64 = z by omega]
    rfl

/-! ### Reading -/

theorem Leads.bounds {l : Lead} (h : Leads b l) : 0x80 ≤ l.lo ∧ l.hi ≤ 0xbf := by
  have hlo : ∀ x < 64, follow 0 ≤ follow x := fun x hx =>
    (follow_le_follow (by omega) hx).2 (Nat.zero_le x)
  have hhi : ∀ x < 64, follow x ≤ follow 63 := fun x hx =>
    (follow_le_follow hx (by omega)).2 (by omega)
  cases h with
  | two _ _ => exact ⟨hlo 0 (by omega), hhi 63 (by omega)⟩
  | three _ | four _ => exact ⟨hlo _ (by split_ifs <;> omega), hhi _ (by split_ifs <;> omega)⟩

theorem Leads.not_lt {l : Lead} (h : Leads b l) : ¬b < 0x80 := by
  simp only [UInt8.lt_iff_toNat_lt, UInt8.reduceToNat]
  cases h <;> rw [UInt8.toNat_ofNat_of_lt' (show _ < 256 by omega)] <;> omega

theorem next_of_lt (h : b < 0x80) : next b rest = (some (Char.ofNat b.toNat), rest) := by
  unfold next
  rw [if_pos h]

/-- A sequence of more than one byte is read after its first two bytes. -/
theorem next_follow {l : Lead} (hl : Leads b l) (hlo : l.lo ≤ follow x) (hhi : follow x ≤ l.hi)
    (hx : x < 64) : next b (follow x :: rest) = tail l.more (l.bits * 64 + x) rest := by
  unfold next
  rw [if_neg hl.not_lt, lead?_eq_some.2 hl]
  dsimp only
  rw [if_pos ⟨hlo, hhi⟩, toNat_follow hx, Nat.add_sub_cancel]

theorem exists_of_next (hb : ¬b < 0x80) (h : next b rest = (some c, rest')) :
    ∃ l x rest₁, Leads b l ∧ x < 64 ∧ l.lo ≤ follow x ∧ follow x ≤ l.hi ∧
      rest = follow x :: rest₁ ∧ tail l.more (l.bits * 64 + x) rest₁ = (some c, rest') := by
  have hnext := h
  unfold next at h
  rw [if_neg hb] at h
  split at h
  · rename_i l b' rest₁ hlead
    have hl := lead?_eq_some.1 hlead
    split at h
    · rename_i hbounds
      obtain ⟨x, hx, rfl⟩ := exists_follow
        ⟨UInt8.le_trans hl.bounds.1 hbounds.1, UInt8.le_trans hbounds.2 hl.bounds.2⟩
      rw [next_follow hl hbounds.1 hbounds.2 hx] at hnext
      exact ⟨l, x, rest₁, hl, hx, hbounds.1, hbounds.2, rfl, hnext⟩
    · cases h
  · cases h

theorem tail_follow (more bits : Nat) (hx : x < 64) (rest : List UInt8) :
    tail (more + 1) bits (follow x :: rest) = tail more (bits * 64 + x) rest := by
  have hlo : 0x80 ≤ follow x := (follow_le_follow (x := 0) (by omega) hx).2 (Nat.zero_le x)
  have hhi : follow x ≤ 0xbf := (follow_le_follow (y := 63) hx (by omega)).2 (by omega)
  rw [tail, if_pos ⟨hlo, hhi⟩, toNat_follow hx, Nat.add_sub_cancel]

theorem exists_of_tail {more bits : Nat} (h : tail (more + 1) bits rest = (some c, rest')) :
    ∃ x rest₁, x < 64 ∧ rest = follow x :: rest₁ ∧
      tail more (bits * 64 + x) rest₁ = (some c, rest') := by
  cases rest with
  | nil => cases h
  | cons b rest₁ =>
    have htail := h
    rw [tail] at h
    split at h
    · rename_i hbounds
      obtain ⟨x, hx, rfl⟩ := exists_follow hbounds
      exact ⟨x, rest₁, hx, rfl, tail_follow more bits hx rest₁ ▸ htail⟩
    · cases h

/-- A sequence is read as its character, whatever stands behind it. -/
theorem Sequence.next (h : Sequence (b :: bytes) v) (rest : List UInt8) :
    next b (bytes ++ rest) = (some (Char.ofNat v), rest) := by
  cases h with
  | one hn =>
    have hb : (UInt8.ofNat v).toNat = v := UInt8.toNat_ofNat_of_lt' (show v < 256 by omega)
    have hlt : (UInt8.ofNat v).toNat < 128 := hb.symm ▸ hn
    rw [List.nil_append, next_of_lt (UInt8.lt_iff_toNat_lt.2 hlt), hb]
  | two hlo hhi hx =>
    exact next_follow (.two hlo hhi) ((follow_le_follow (by omega) hx).2 (Nat.zero_le _))
      ((follow_le_follow hx (by omega)).2 (by omega)) hx
  -- Of the bytes that follow, only the first one has bounds that depend on the lead.
  | @three n x y hn hlo hhi hy =>
    have hx : x < 64 := by split_ifs at hhi <;> omega
    have hlead : next _ (follow x :: follow y :: rest) = tail 1 _ _ := next_follow (.three hn)
      ((follow_le_follow (by split_ifs <;> omega) hx).2 hlo)
      ((follow_le_follow hx (by split_ifs <;> omega)).2 hhi) hx
    exact hlead.trans (tail_follow 0 _ hy rest)
  | @four n x y z hn hlo hhi hy hz =>
    have hx : x < 64 := by split_ifs at hhi <;> omega
    have hlead : next _ (follow x :: follow y :: follow z :: rest) = tail 2 _ _ := next_follow
      (.four hn) ((follow_le_follow (by split_ifs <;> omega) hx).2 hlo)
      ((follow_le_follow hx (by split_ifs <;> omega)).2 hhi) hx
    exact (hlead.trans (tail_follow 1 _ hy _)).trans (tail_follow 0 _ hz rest)

/-- What is read as a character is a sequence. -/
theorem sequence_of_next (h : next b rest = (some c, rest')) :
    ∃ bytes v, Sequence (b :: bytes) v ∧ c = Char.ofNat v ∧ rest = bytes ++ rest' := by
  by_cases hb : b < 0x80
  · rw [next_of_lt hb] at h
    cases h
    have hone := Sequence.one (UInt8.lt_iff_toNat_lt.1 hb)
    rw [UInt8.ofNat_toNat] at hone
    exact ⟨[], _, hone, rfl, rfl⟩
  · obtain ⟨l, x, rest₁, hl, hx, hlo, hhi, rfl, htail⟩ := exists_of_next hb h
    cases hl with
    | two hn hn' =>
      cases htail
      exact ⟨[_], _, .two hn hn' hx, rfl, rfl⟩
    | three hn =>
      obtain ⟨y, rest₂, hy, rfl, hlast⟩ := exists_of_tail htail
      cases hlast
      exact ⟨[_, _], _, .three hn ((follow_le_follow (by split_ifs <;> omega) hx).1 hlo)
        ((follow_le_follow hx (by split_ifs <;> omega)).1 hhi) hy, rfl, rfl⟩
    | four hn =>
      obtain ⟨y, rest₂, hy, rfl, hmore⟩ := exists_of_tail htail
      obtain ⟨z, rest₃, hz, rfl, hlast⟩ := exists_of_tail hmore
      cases hlast
      exact ⟨[_, _, _], _, .four hn ((follow_le_follow (by split_ifs <;> omega) hx).1 hlo)
        ((follow_le_follow hx (by split_ifs <;> omega)).1 hhi) hy hz, rfl, rfl⟩

/-- **A character is read just where its bytes stand**, whatever stands behind them. -/
theorem next_eq_some : next b rest = (some c, rest') ↔
    b :: rest = String.utf8EncodeChar c ++ rest' := by
  constructor
  · intro h
    obtain ⟨bytes, v, hsequence, rfl, rfl⟩ := sequence_of_next h
    rw [← hsequence.eq_encodeChar, List.cons_append]
  · intro h
    have hsequence := sequence_encodeChar c
    cases hbytes : String.utf8EncodeChar c with
    | nil =>
      rw [hbytes] at hsequence
      cases hsequence
    | cons b' bytes =>
      rw [hbytes] at hsequence h
      rw [List.cons_append, List.cons.injEq] at h
      rw [h.1, h.2, hsequence.next, Char.ofNat_toNat]

/-! ### Texts -/

theorem mapM_id_eq_some {l : List (Option Char)} {cs : List Char} :
    l.mapM id = some cs ↔ l = cs.map some := by
  induction l generalizing cs with
  | nil =>
    rw [List.mapM_nil, List.nil_eq, List.map_eq_nil_iff]
    exact Option.some_inj.trans eq_comm
  | cons c? l ih =>
    rw [List.mapM_cons, id, Option.bind_eq_bind, Option.bind_eq_some_iff]
    simp only [Option.bind_eq_bind, Option.bind_eq_some_iff, ih]
    constructor
    · rintro ⟨c, rfl, more, rfl, hcs⟩
      cases hcs
      rfl
    · intro h
      cases cs with
      | nil => cases h
      | cons c more =>
        cases h
        exact ⟨c, rfl, more, rfl, rfl⟩

theorem chars?_cons (b : UInt8) (rest : List UInt8) :
    chars? (b :: rest) = (next b rest).1 :: chars? (next b rest).2 := by
  rw [chars?]

theorem chars?_encodeChar (c : Char) (rest : List UInt8) :
    chars? (String.utf8EncodeChar c ++ rest) = some c :: chars? rest := by
  cases hbytes : String.utf8EncodeChar c ++ rest with
  | nil => exact absurd (List.append_eq_nil_iff.1 hbytes).1 String.utf8EncodeChar_ne_nil
  | cons b more => rw [chars?_cons, next_eq_some.2 hbytes.symm]

theorem chars?_eq_map {cs : List Char} :
    chars? bytes = cs.map some ↔ bytes = cs.flatMap String.utf8EncodeChar := by
  constructor
  · intro h
    induction cs generalizing bytes with
    | nil =>
      cases bytes with
      | nil => rfl
      | cons b rest =>
        rw [chars?_cons] at h
        cases h
    -- A character is the bytes it is encoded as, and the rest is a text of its own.
    | cons c cs ih =>
      cases bytes with
      | nil =>
        rw [chars?] at h
        cases h
      | cons b rest =>
        rw [chars?_cons, List.map_cons, List.cons.injEq] at h
        rw [List.flatMap_cons, ← ih h.2]
        exact next_eq_some.1 (Prod.ext h.1 rfl)
  · rintro rfl
    induction cs with
    | nil => rw [List.flatMap_nil, chars?]; rfl
    | cons c cs ih => rw [List.flatMap_cons, chars?_encodeChar, ih, List.map_cons]

/-- **Bytes are decoded to a text just if they are the bytes of this text.** -/
theorem decode?_eq_some {s : String} : decode? bytes = some s ↔ bytes = encode s := by
  rw [decode?, Option.map_eq_some_iff, encode_eq, ← chars?_eq_map]
  constructor
  · rintro ⟨cs, hcs, rfl⟩
    rw [String.toList_ofList]
    exact mapM_id_eq_some.1 hcs
  · exact fun h => ⟨s.toList, mapM_id_eq_some.2 h, String.ofList_toList⟩

end Utf8

end DialogueStore
