-- Decimal numbers read as doubles, correctly rounded.
import Dealer.Decimal.Shortest

namespace Dealer

namespace Decimal

/-- The double nearest to a decimal number. From 10 ^ 310 on it is infinite and below
2 ^ -1080 it is zero, whatever the digits are, so that no power of ten is worked out
that the answer does not need. -/
def toFloat (d : Decimal) : Float :=
  if d.digits = 0 then 0.0
  else match d.exp with
    | .ofNat e => if 310 ≤ e then 1.0 / 0.0 else Float.ofScientific d.digits false e
    | .negSucc e =>
      if 1080 + Nat.log2 d.digits < 3 * (e + 1) then 0.0
      else Float.ofScientific d.digits true (e + 1)

end Decimal

/-- The value of a run of decimal digits. -/
def digitsValue (digits : List Char) : Nat :=
  digits.foldl (fun n c => 10 * n + (c.toNat - '0'.toNat)) 0

end Dealer
