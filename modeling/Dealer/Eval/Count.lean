-- Counts: numbers that say how many.
import Dealer.Eval.Error

namespace Dealer

/-- The count that a number is. It must be finite, then whole and not below zero, then not above
the largest count. The negative zero is zero. -/
def toCount (what : Counted) (x : Float) : Except EvalError Nat :=
  let size := Dyadic.ofFloat x
  if !x.isFinite then .error (.notFinite what)
  else if (isSigned x && size.mant ≠ 0) || !size.isWhole then .error (.notACount what x)
  else if maxCount < size.floor then .error (.tooLarge what x)
  else .ok size.floor

/-- Refuses a deck that grows beyond the largest count. -/
def checkSize (size : Nat) : Except EvalError Unit :=
  if maxCount < size then .error (.tooLarge .deck (Float.ofNat size)) else .ok ()

end Dealer
