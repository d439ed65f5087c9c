/-
Percent encoding: bytes written as a percent sign and two hexadecimal digits.
-/
import DialogueStore.Text.Utf8

namespace DialogueStore

namespace Percent

/-- The value of a byte as a hexadecimal digit. -/
def digit? (b : UInt8) : Option UInt8 :=
  if 0x30 ≤ b ∧ b ≤ 0x39 then some (b - 0x30)
  else if 0x41 ≤ b ∧ b ≤ 0x46 then some (b - 0x41 + 10)
  else if 0x61 ≤ b ∧ b ≤ 0x66 then some (b - 0x61 + 10)
  else none

/-- The byte that two digits stand for. -/
def pair? (high low : UInt8) : Option UInt8 := do
  return (← digit? high) * 16 + (← digit? low)

/-- The bytes that a text stands for.  A percent sign without two digits stands for itself. -/
def decodeBytes : List UInt8 → List UInt8
  | 0x25 :: high :: low :: rest =>
    match pair? high low with
    | some b => b :: decodeBytes rest
    | none => 0x25 :: decodeBytes (high :: low :: rest)
  | b :: rest => b :: decodeBytes rest
  | [] => []

/-- The text that a text stands for, if its bytes are one. -/
def decode? (s : String) : Option String := Utf8.decode? (decodeBytes (Utf8.encode s))

end Percent

end DialogueStore
