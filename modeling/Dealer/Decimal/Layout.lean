-- How the digits of a number are laid out as text.
import Dealer.Decimal.Shortest

namespace Dealer

/-- One way to write doubles. -/
structure NumberLayout where
  /-- How a value halfway between two shortest numbers is rounded. -/
  tie : Tie
  /-- The places of the point, counted from the first digit, that are written without an
  exponent. Every place is when there is no window. -/
  window : Option (Int × Int)
  /-- What follows a whole number. -/
  wholeEnding : List Char

namespace NumberLayout

/-- Digits with a point after the first `point` of them, filled up with zeros. -/
def positional (layout : NumberLayout) (digits : List Char) (point : Int) : List Char :=
  if point ≤ 0 then '0' :: '.' :: List.replicate (-point).toNat '0' ++ digits
  else if point.toNat < digits.length then
    digits.take point.toNat ++ '.' :: digits.drop point.toNat
  else digits ++ List.replicate (point.toNat - digits.length) '0' ++ layout.wholeEnding

/-- One digit before the point, and an exponent with its sign. -/
def scientific (digits : List Char) (point : Int) : List Char :=
  let fraction := digits.drop 1
  let sign := if 0 < point then ['+'] else []
  digits.take 1 ++ (if fraction = [] then [] else '.' :: fraction)
    ++ 'e' :: sign ++ (toString (point - 1)).toList

/-- The text of a finite magnitude above zero. -/
def magnitude (layout : NumberLayout) (d : Dyadic) : List Char :=
  let short := d.shortest layout.tie
  let digits := Nat.toDigits 10 short.digits
  let point := digits.length + short.exp
  match layout.window with
  | none => layout.positional digits point
  | some (low, high) =>
    if low ≤ point ∧ point ≤ high then layout.positional digits point
    else scientific digits point

/-- The text of a double. -/
def write (layout : NumberLayout) (x : Float) : String :=
  if x.isNaN then "NaN"
  else
    let sign := if isSigned x then ['-'] else []
    if x.isInf then String.ofList (sign ++ "inf".toList)
    else
      let d := Dyadic.ofFloat x
      String.ofList (sign ++ if d.mant = 0 then '0' :: layout.wholeEnding else layout.magnitude d)

/-- Numbers in answers and messages: never an exponent, whole numbers without a point, and a
tie goes up. -/
def plain : NumberLayout := ⟨.up, none, []⟩

/-- Numbers inside a document's text: an exponent below 0.00001 and from 10 ^ 16 on, a point in
every number without one, and a tie goes to the even digit. -/
def compact : NumberLayout := ⟨.even, some (-4, 16), ['.', '0']⟩

end NumberLayout
end Dealer
