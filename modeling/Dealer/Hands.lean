-- Dealing a pile round the members.
import Dealer.ByName
import Dealer.Distinct

namespace Dealer

/-- A member and the cards that the member holds. -/
abbrev Hand := String × List String

/-- How a pile was dealt: a hand for each member that was dealt to, in their order, and the cards
that nobody got. -/
structure Dealt where
  hands : List Hand
  leftover : List String
  deriving DecidableEq, Repr

/-- Puts one card on top of each hand, as far as the cards go. -/
def addRow : List String → List (List String) → List (List String)
  | card :: cards, hand :: hands => (card :: hand) :: addRow cards hands
  | _, hands => hands

/-- Deals a pile in so many rounds to `m` members. In each round every member gets one card, as far
as the cards go. Gives the hands and the rest of the pile. -/
def dealRounds (m : Nat) : Nat → List String → List (List String) × List String
  | 0, pile => (List.replicate m [], pile)
  | rounds + 1, pile =>
    let (hands, rest) := dealRounds m rounds (pile.drop m)
    (addRow (pile.take m) hands, rest)

/-- The rounds that it takes to deal a pile to `m` members. -/
def roundsNeeded (size m : Nat) : Nat := (size + m - 1) / m

namespace Dealt

/-- Deals a pile front to back, round the members, in as many rounds as it takes or as the limit
allows. -/
def ofPile (pile members : List String) (limit : Option Nat) : Dealt :=
  if members = [] then ⟨[], pile⟩
  else
    let needed := roundsNeeded pile.length members.length
    let rounds := match limit with
      | none => needed
      | some l => min l needed
    let (hands, leftover) := dealRounds members.length rounds pile
    ⟨members.zip hands, leftover⟩

/-- The number of cards that were dealt. -/
def size (d : Dealt) : Nat := d.hands.foldl (fun n h => n + h.2.length) 0

/-- The members by the sizes of their hands, the largest size first. -/
def bySize (d : Dealt) : List (Nat × List String) :=
  let sizes := distinct (d.hands.map fun h => h.2.length)
  (sizes.mergeSort fun a b => decide (b ≤ a)).map fun n =>
    (n, (d.hands.filter fun h => h.2.length = n).map Prod.fst)

end Dealt
end Dealer
