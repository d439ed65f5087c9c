/-
How a double is written.

`Layout` holds the decisions of one notation: where positional notation ends,
whether a whole number keeps a decimal, how the exponent and the values that
are not finite are spelled, and which way a tie of two shortest decimals goes.
-/
import DialogueStore.Decimal.Shortest

namespace DialogueStore

namespace Decimal

structure Layout where
  /-- The leading exponents that are written positionally. -/
  positional : Int → Bool
  /-- What follows a whole number in positional notation. -/
  wholeMark : String
  tie : Tie
  nan : String
  infinity : String

/-- Positional from 1e-5 up to 1e16, one decimal at least, and an exponent with its sign beyond. -/
def jsonLayout : Layout :=
  ⟨fun lead => -5 ≤ lead && lead < 16, ".0", .toEven, "null", "null"⟩

/-- Always positional, and a whole number has no point. -/
def plainLayout : Layout := ⟨fun _ => true, "", .up, "NaN", "inf"⟩

def zeros (n : Nat) : String := String.ofList (List.replicate n '0')

def Layout.writeDecimal (l : Layout) (d : Decimal) : String :=
  let ds := Nat.toDigits 10 d.digits
  let n := ds.length
  -- The value is 0.ds · 10^point.
  let point : Int := n + d.exponent
  if l.positional (point - 1) then
    if (n : Int) ≤ point then
      String.ofList ds ++ zeros (point - n).toNat ++ l.wholeMark
    else if 0 < point then
      String.ofList (ds.take point.toNat) ++ "." ++ String.ofList (ds.drop point.toNat)
    else
      "0." ++ zeros (-point).toNat ++ String.ofList ds
  else
    let e := point - 1
    let mantissa := match ds with
      | [] => "0"
      | [c] => String.singleton c
      | c :: rest => String.singleton c ++ "." ++ String.ofList rest
    mantissa ++ "e" ++ (if e < 0 then "-" else "+") ++ toString e.natAbs

def Layout.write (l : Layout) (x : Float) : String :=
  let (negative, magnitude) := decode x
  let sign := if negative then "-" else ""
  match magnitude with
  | .nan => l.nan
  | .infinite => if l.nan = l.infinity then l.infinity else sign ++ l.infinity
  | .zero => sign ++ "0" ++ l.wholeMark
  | .finite b => sign ++ l.writeDecimal (shortest b l.tie)

end Decimal

end DialogueStore
