-- Orders and choices drawn from the generator. A choice without replacement is
-- drawn by one of three ways, whichever is quickest for the numbers at hand.
import Dealer.Generator.Basic
import Std.Data.HashSet

namespace Dealer.Generator

variable {α : Type}

/-! ## Shuffling -/

/-- Swaps the items from place `i` down to place 1, each with one not behind it. -/
def shuffleDown : Nat → Array α → Generator → Array α × Generator
  | 0, items, g => (items, g)
  | i + 1, items, g =>
    let (j, g) := g.below .w32 (i + 2)
    shuffleDown i (items.swapIfInBounds (i + 1) j) g

/-- Puts items in a random order. -/
def shuffle (items : List α) (g : Generator) : List α × Generator :=
  let (shuffled, g) := shuffleDown (items.length - 1) items.toArray g
  (shuffled.toList, g)

/-! ## Choosing places -/

/-- Chooses from all places in their order: each of the first `amount` is swapped with one not
before it. -/
def chooseInPlace (len : Nat) : Nat → Nat → Array Nat → Generator → Array Nat × Generator
  | 0, _, places, g => (places, g)
  | amount + 1, i, places, g =>
    let (j, g) := g.below .w32 (len - i)
    chooseInPlace len amount (i + 1) (places.swapIfInBounds i (i + j)) g

/-- Puts a place before another one that is there. -/
def insertBefore (new old : Nat) : List Nat → List Nat
  | [] => []
  | p :: ps => if p = old then new :: p :: ps else p :: insertBefore new old ps

/-- Takes a place up to `k`, for `amount` places `k` from the given one on. A place that is taken
already makes room for `k` itself. In an ordered choice `k` goes before it, else to the end. -/
def chooseByRank (ordered : Bool) : Nat → Nat → List Nat → Generator → List Nat × Generator
  | 0, _, places, g => (places, g)
  | amount + 1, k, places, g =>
    let (t, g) := g.below .w32 (k + 1)
    let places :=
      if t ∈ places then if ordered then insertBefore k t places else places ++ [k]
      else places ++ [t]
    chooseByRank ordered amount (k + 1) places g

/-- Draws a place that is not taken. When no try finds one, the first free place is taken. -/
def drawFree (width : Width) (len : Nat) (taken : Std.HashSet Nat) :
    Nat → Generator → Nat × Generator
  | 0, g => (((List.range len).find? fun i => !taken.contains i).getD 0, g)
  | tries + 1, g =>
    let (i, g) := g.belowFine width len
    if taken.contains i then drawFree width len taken tries g else (i, g)

/-- Draws places that are not taken, as many as are asked for. -/
def chooseByTrial (width : Width) (len : Nat) :
    Nat → Std.HashSet Nat → Generator → List Nat × Generator
  | 0, _, g => ([], g)
  | amount + 1, taken, g =>
    let (i, g) := g.drawFree width len taken patience
    let (places, g) := chooseByTrial width len amount (taken.insert i) g
    (i :: places, g)

/-- The ways of choosing places. -/
inductive Way
  | inPlace
  | byRank
  | byTrial
  deriving DecidableEq, Repr

/-- The quickest way, as measured in single precision. -/
def quickest (len amount : Nat) : Way :=
  let many := decide (500000 ≤ len)
  let l := Float32.ofNat len
  let a := Float32.ofNat amount
  if amount < 163 then
    let (c₀, c₁) : Float32 × Float32 := if many then (8 / 45, 70 / 9) else (1.6, 10)
    if 11 < amount && l < (c₁ + c₀ * a) * a then .inPlace else .byRank
  else
    let c : Float32 := if many then 330 / 9 else 270
    if l < c * a then .inPlace else .byTrial

/-- Chooses different places in a list of so many items, in a random order. No more are chosen than
there are. -/
def choosePlaces (len amount : Nat) (g : Generator) : List Nat × Generator :=
  let amount := min amount len
  if Width.w32.size ≤ len then chooseByTrial .w64 len amount ∅ g
  else
    match quickest len amount with
    | .inPlace =>
      let (places, g) := chooseInPlace len amount 0 (Array.range len) g
      (places.toList.take amount, g)
    | .byRank =>
      let (places, g) := chooseByRank (amount < 50) amount (len - amount) [] g
      if amount < 50 then (places, g) else shuffle places g
    | .byTrial => chooseByTrial .w32 len amount ∅ g

/-! ## Choosing items -/

/-- The items at some places. -/
def itemsAt (items : List α) (places : List Nat) : List α :=
  let items := items.toArray
  places.filterMap fun i => items[i]?

/-- Chooses items at different places. No more are chosen than there are. -/
def sample (items : List α) (amount : Nat) (g : Generator) : List α × Generator :=
  let (places, g) := choosePlaces items.length amount g
  (itemsAt items places, g)

end Dealer.Generator
