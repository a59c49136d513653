-- A finite double is a whole number times a power of two. Counts and digits are
-- worked out on that form, in exact arithmetic.

namespace Dealer

/-- The value `mant * 2 ^ exp`. -/
structure Dyadic where
  mant : Nat
  exp : Int
  deriving DecidableEq, Repr

namespace Dyadic

/-- The bit of a double's representation that holds its sign. -/
def signBit : Nat := 1 <<< 63

/-- The bit of the mantissa that a double leaves out: the one above the fifty-two it keeps. -/
def hiddenBit : Nat := 1 <<< 52

/-- The magnitude of a finite double. The bits below the sign are eleven of exponent and
fifty-two of mantissa, and an exponent above zero stands for one more bit of mantissa. -/
def ofFloat (x : Float) : Dyadic :=
  let bits := x.toBits.toNat % signBit
  let exponent : Nat := bits / hiddenBit
  let fraction := bits % hiddenBit
  if exponent = 0 then ⟨fraction, -1074⟩ else ⟨fraction + hiddenBit, (exponent : Int) - 1075⟩

/-- The value rounded down to a whole number. -/
def floor (d : Dyadic) : Nat :=
  match d.exp with
  | .ofNat k => d.mant <<< k
  | .negSucc k => d.mant >>> (k + 1)

/-- Whether the value is a whole number. -/
def isWhole (d : Dyadic) : Bool :=
  match d.exp with
  | .ofNat _ => true
  | .negSucc k => d.mant % 1 <<< (k + 1) == 0

end Dyadic

/-- The sign bit of a double. It is set for the negative zero. -/
def isSigned (x : Float) : Bool := Dyadic.signBit ≤ x.toBits.toNat

end Dealer
