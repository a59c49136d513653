-- What the members hold in the middle of a game.
import Dealer.Hands

namespace Dealer

/-- The cards that were dealt. A member without cards is not listed, and a label is listed once. -/
structure Holdings where
  /-- The hands of the last deal. -/
  recent : ByName (List String) := []
  /-- The hands of all deals together. -/
  total : ByName (List String) := []
  /-- The labels of the last deal, hand by hand. -/
  recentUsed : List String := []
  /-- The labels of all deals, in the order in which they came up. -/
  totalUsed : List String := []
  deriving DecidableEq, Repr

namespace Holdings

/-- Adds hands to what the members hold. A hand without cards changes nothing. -/
def addHands (held : ByName (List String)) (hands : List Hand) : ByName (List String) :=
  hands.foldl (fun held hand => if hand.2 = [] then held else ByName.append hand.1 hand.2 held) held

/-- Records a deal. What the deal before it gave is not recent any more. -/
def record (h : Holdings) (d : Dealt) : Holdings :=
  let cards := d.hands.flatMap Prod.snd
  { recent := addHands [] d.hands
    total := addHands h.total d.hands
    recentUsed := distinct cards
    totalUsed := distinct (h.totalUsed ++ cards) }

/-- The hands of the members, of all deals or of the last one. -/
def hands (h : Holdings) (cumulative : Bool) : ByName (List String) :=
  if cumulative then h.total else h.recent

/-- The labels that were dealt, by all deals or by the last one. -/
def used (h : Holdings) (cumulative : Bool) : List String :=
  if cumulative then h.totalUsed else h.recentUsed

/-- Everything that a member was dealt. -/
def of (h : Holdings) (member : String) : List String := (h.total.get? member).getD []

end Holdings
end Dealer
