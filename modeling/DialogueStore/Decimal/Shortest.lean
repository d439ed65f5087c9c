/-
The shortest decimal that reads back to a given double.

A finite positive double is significand · 2^exponent, and the reals that round
to it form an interval, with its two ends included when the significand is
even.  For one, two, … seventeen digits the two neighbours of the value on that
decimal grid are tested in exact integer arithmetic: the first grid with a hit
wins, and of two hits the one nearer to the value.  An exact tie is left to
the caller.
-/
namespace DialogueStore

/-- A positive decimal, digits · 10^exponent. -/
structure Decimal where
  digits : Nat
  exponent : Int
  deriving DecidableEq, Repr

namespace Decimal

/-- A positive double, significand · 2^exponent, and whether the gap below it is half the one
above. -/
structure Binary where
  significand : Nat
  exponent : Int
  narrowBelow : Bool
  deriving DecidableEq, Repr

/-- Which of two equally near neighbours is taken. -/
inductive Tie
  | toEven
  | up
  deriving DecidableEq, Repr

/-- How a double that is not a positive finite number is to be told apart. -/
inductive Magnitude
  | nan
  | infinite
  | zero
  | finite (b : Binary)
  deriving DecidableEq, Repr

/-- The sign bit of a double and its magnitude, read off its 64 bits. -/
def decode (x : Float) : Bool × Magnitude :=
  let bits := x.toBits.toNat
  let negative := decide (0x8000000000000000 ≤ bits)
  let biased : Nat := bits / 0x10000000000000 % 0x800
  let fraction : Nat := bits % 0x10000000000000
  let magnitude :=
    if biased = 2047 then (if fraction = 0 then .infinite else .nan)
    else if biased = 0 then
      (if fraction = 0 then .zero else .finite ⟨fraction, -1074, false⟩)
    else .finite ⟨0x10000000000000 + fraction, Int.ofNat biased - 1075, fraction = 0 && biased ≠ 1⟩
  (negative, magnitude)

/-- The count of decimal digits of a number, 1 for zero. -/
def digitCount (n : Nat) : Nat := (Nat.toDigits 10 n).length

/-- The largest e with 10^e ≤ num / den, for positive num and den. -/
def leadingExponent (num den : Nat) : Int :=
  let e : Int := digitCount num - digitCount den
  if num * Nat.pow 10 (-e).toNat ≥ den * Nat.pow 10 e.toNat then e else e - 1

/-- The decimal of `places` digits that is nearest to the value among those that read back to it. -/
def onGrid (b : Binary) (tie : Tie) (lead : Int) (places : Nat) : Option Decimal :=
  let t : Int := lead + 1 - places
  -- All quantities are in units of a quarter of the gap above, over a common denominator.
  let scale := Nat.pow 2 (b.exponent - 2).toNat * Nat.pow 10 (-t).toNat
  let unit := Nat.pow 2 (2 - b.exponent).toNat * Nat.pow 10 t.toNat
  let value := 4 * b.significand * scale
  let low := (4 * b.significand - if b.narrowBelow then 1 else 2) * scale
  let high := (4 * b.significand + 2) * scale
  let closed := b.significand % 2 = 0
  let inside (n : Nat) : Bool :=
    if closed then low ≤ n && n ≤ high else low < n && n < high
  let c := value / unit
  let below := c * unit
  let above := (c + 1) * unit
  match inside below && c ≠ 0, inside above with
  | false, false => none
  | true, false => some ⟨c, t⟩
  | false, true => some ⟨c + 1, t⟩
  | true, true =>
    let toBelow := value - below
    let toAbove := above - value
    if toBelow < toAbove then some ⟨c, t⟩
    else if toAbove < toBelow then some ⟨c + 1, t⟩
    else match tie with
      | .toEven => some ⟨if c % 2 = 0 then c else c + 1, t⟩
      | .up => some ⟨c + 1, t⟩

/-- Moves trailing zeros of the digits into the exponent. -/
def normalize (d : Decimal) : Decimal :=
  if h : d.digits ≠ 0 ∧ d.digits % 10 = 0 then normalize ⟨d.digits / 10, d.exponent + 1⟩ else d
termination_by d.digits
decreasing_by omega

/-- The shortest decimal that reads back to the double, and of the shortest ones the nearest. -/
def shortest (b : Binary) (tie : Tie) : Decimal :=
  let num := b.significand * Nat.pow 2 b.exponent.toNat
  let den := Nat.pow 2 (-b.exponent).toNat
  let lead := leadingExponent num den
  (((List.range 17).findSome? fun n => onGrid b tie lead (n + 1)).getD
    ⟨b.significand, b.exponent⟩).normalize

end Decimal

end DialogueStore
