/-
UTF-8: characters as bytes.

`Utf8.decode?` refuses bytes that are not well formed, `Utf8.decodeLossy` puts a
replacement character for each flawed sequence.  A flawed sequence is the longest
start of a well formed one that stands there, or else one byte.
-/

namespace DialogueStore

namespace Utf8

/-- What a leading byte asks of the next byte, the number of bytes after that one, and its own part
of the code point. -/
structure Lead where
  lo : UInt8
  hi : UInt8
  more : Nat
  bits : Nat

/-- The leading bytes of sequences of two to four bytes.  The bounds on the next byte leave out
surrogates, numbers beyond the code points and sequences that are longer than need be. -/
def lead? (b : UInt8) : Option Lead :=
  if 0xc2 ≤ b ∧ b ≤ 0xdf then some ⟨0x80, 0xbf, 0, b.toNat - 0xc0⟩
  else if b = 0xe0 then some ⟨0xa0, 0xbf, 1, 0⟩
  else if b = 0xed then some ⟨0x80, 0x9f, 1, 0xd⟩
  else if 0xe1 ≤ b ∧ b ≤ 0xef then some ⟨0x80, 0xbf, 1, b.toNat - 0xe0⟩
  else if b = 0xf0 then some ⟨0x90, 0xbf, 2, 0⟩
  else if 0xf1 ≤ b ∧ b ≤ 0xf3 then some ⟨0x80, 0xbf, 2, b.toNat - 0xf0⟩
  else if b = 0xf4 then some ⟨0x80, 0x8f, 2, 4⟩
  else none

/-- Reads the last bytes of a sequence; none for the character if one is missing. -/
def tail : (more : Nat) → (bits : Nat) → List UInt8 → Option Char × List UInt8
  | 0, bits, bytes => (some (Char.ofNat bits), bytes)
  | more + 1, bits, b :: rest =>
    if 0x80 ≤ b ∧ b ≤ 0xbf then tail more (bits * 64 + (b.toNat - 0x80)) rest else (none, b :: rest)
  | _ + 1, _, [] => (none, [])

/-- Reads one sequence; none for the character if it is flawed. -/
def next (b : UInt8) (rest : List UInt8) : Option Char × List UInt8 :=
  if b < 0x80 then (some (Char.ofNat b.toNat), rest)
  else match lead? b, rest with
    | some l, c :: rest' =>
      if l.lo ≤ c ∧ c ≤ l.hi then tail l.more (l.bits * 64 + (c.toNat - 0x80)) rest'
      else (none, rest)
    | _, _ => (none, rest)

theorem length_tail_le (more bits : Nat) (bytes : List UInt8) :
    (tail more bits bytes).2.length ≤ bytes.length := by
  induction more generalizing bits bytes with
  | zero => simp [tail]
  | succ more ih =>
    cases bytes with
    | nil => simp [tail]
    | cons b rest =>
      unfold tail
      split
      · exact Nat.le_succ_of_le (ih _ _)
      · simp

theorem length_next_le (b : UInt8) (rest : List UInt8) : (next b rest).2.length ≤ rest.length := by
  unfold next
  split
  · simp
  · split
    · split
      · exact Nat.le_succ_of_le (length_tail_le _ _ _)
      · simp
    · simp

/-- The characters of bytes, with nothing in place of flawed sequences. -/
def chars? : List UInt8 → List (Option Char)
  | [] => []
  | b :: rest =>
    have : (next b rest).2.length < rest.length + 1 := Nat.lt_succ_of_le (length_next_le b rest)
    (next b rest).1 :: chars? (next b rest).2
termination_by bytes => bytes.length

def decode? (bytes : List UInt8) : Option String :=
  (chars? bytes).mapM id |>.map String.ofList

/-- The text of bytes, with a replacement character for each flawed sequence. -/
def decodeLossy (bytes : List UInt8) : String :=
  String.ofList ((chars? bytes).map fun c => c.getD '\ufffd')

def encode (s : String) : List UInt8 := s.toUTF8.toList

end Utf8

end DialogueStore
