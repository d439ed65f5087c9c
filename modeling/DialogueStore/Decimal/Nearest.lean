/-
Reading decimals: the double nearest to a decimal.
-/

namespace DialogueStore

namespace Decimal

/-- The double nearest to `digits · 10 ^ exponent`, or its negative.  Far beyond the range of the
doubles nothing is computed: the result is zero or infinite. -/
def nearest (negative : Bool) (digits : Nat) (exponent : Int) : Float :=
  let width : Int := (Nat.toDigits 10 digits).length
  let x : Float :=
    if digits = 0 || width + exponent < -400 then 0
    else if width + exponent > 400 then 1.0 / 0.0
    else Float.ofScientific digits (exponent < 0) exponent.natAbs
  if negative then -x else x

end Decimal

end DialogueStore
