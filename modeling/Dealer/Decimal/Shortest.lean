-- The fewest digits that read back as a given double. A decimal number reads
-- back when it lies among the reals that round to the double, so the digits are
-- searched on coarser and finer grids of multiples of a power of ten, and the
-- coarsest grid with a point among those reals wins.
import Dealer.Decimal.Dyadic

namespace Dealer

/-- Which of two grid points is taken when the value lies halfway between them. -/
inductive Tie
  | up
  | even
  deriving DecidableEq, Repr

/-- The decimal number `digits * 10 ^ exp`. -/
structure Decimal where
  digits : Nat
  exp : Int
  deriving DecidableEq, Repr

namespace Dyadic

/-- The reals that round to a double, in quarters of its last place: those from `low` to
`high`, the ends included when `closed` holds. Below a power of two the doubles stand
twice as close. -/
structure Neighbourhood where
  low : Nat
  high : Nat
  closed : Bool

def neighbourhood (d : Dyadic) : Neighbourhood where
  low := 4 * d.mant - if d.mant = hiddenBit ∧ d.exp ≠ -1074 then 1 else 2
  high := 4 * d.mant + 2
  closed := d.mant % 2 == 0

/-- The multiple of `10 ^ p` that reads back as the double: of the two around it, the
nearer one that does. -/
def onGrid (tie : Tie) (d : Dyadic) (p : Int) : Option Nat :=
  let q := d.exp - 2
  let scale := Nat.pow 10 (-p).toNat <<< q.toNat
  let unit := Nat.pow 10 p.toNat <<< (-q).toNat
  let near := d.neighbourhood
  let readsBack (n : Nat) : Bool :=
    if near.closed then near.low * scale ≤ n * unit && n * unit ≤ near.high * scale
    else near.low * scale < n * unit && n * unit < near.high * scale
  let value := 4 * d.mant * scale
  let below := value / unit
  let rest := value % unit
  match readsBack below, readsBack (below + 1) with
  | true, true =>
    if 2 * rest < unit then some below
    else if unit < 2 * rest then some (below + 1)
    else match tie with
      | .up => some (below + 1)
      | .even => some (if below % 2 = 0 then below else below + 1)
  | true, false => some below
  | false, true => some (below + 1)
  | false, false => none

/-- The search through `steps` grids, each ten times finer than the one before. -/
def searchGrids (tie : Tie) (d : Dyadic) : Nat → Int → Decimal
  | 0, _ => ⟨0, 0⟩
  | steps + 1, p =>
    match d.onGrid tie p with
    | some n => ⟨n, p⟩
    | none => searchGrids tie d steps (p - 1)

/-- A power of ten that is not below the value, at most twelve places too high: a bit is worth
between 0.30 and 0.31 decimal places. -/
def topGrid (d : Dyadic) : Int :=
  let bits := d.exp + (Nat.log2 d.mant + 1)
  if 0 ≤ bits then bits * 31 / 100 + 1 else -(-bits * 30 / 100)

/-- The fewest digits that read back as a value above zero, and of those the nearest. Seventeen
digits always do. -/
def shortest (tie : Tie) (d : Dyadic) : Decimal := searchGrids tie d 40 d.topGrid

end Dyadic
end Dealer
