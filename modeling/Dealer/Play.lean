-- Playing a script: its rules are run one after the other, and each may deal
-- cards and tell the members something.
import Dealer.Eval.Matcher
import Dealer.Holdings
import Dealer.Rule
import Dealer.Transcript

namespace Dealer

/-- The name of the field for cards that nobody got. -/
def undealtName : String := "Undealt"

/-- The name of the field for the cards that a member was dealt. -/
def handName : String := "You were dealt"

/-- Those who are at the table in the course of a game. -/
structure Seats where
  members : List String
  moderator : Option String := none

/-- A game in progress: what the members hold, and what they were told. -/
structure Game where
  held : Holdings := {}
  told : Transcript := {}

/-! ## Texts -/

/-- The text of a number of cards. -/
def itemCount (n : Nat) : String := if n = 1 then "1 item" else toString n ++ " items"

/-- Some cards, one on a line. -/
def lines (cards : List String) : String := "\n".intercalate cards

/-- A hand as the moderator sees it. -/
def listing (cards : List String) : String := if cards = [] then "nothing" else lines cards

/-! ## Parts of rules -/

/-- A member and what is told of the member. -/
abbrev Entry := String × String

/-- The field that tells an entry. -/
def Entry.field (e : Entry) : Field := ⟨e.1, e.2, false⟩

/-- The limit of a rule. It is one at least. -/
def limitOf (names : Names) : Option Quantity → Eval Run (Option Nat)
  | none => pure none
  | some q => do
    let n ← Eval.onMemo (q.count names.number .limit)
    if n = 0 then throw .zeroLimit else return some n

/-- A flag of a rule. -/
def flagOr (names : Names) (fallback : Bool) (f : Option Flag) : Eval Run Bool :=
  Eval.onMemo (Flag.evalOr names.flag fallback f)

/-- Whether a guard lets its rule run. -/
def Guard.passes (names : Names) (g : Guard) (cumulative : Option Flag) (held : Holdings) :
    Eval Run Bool := do
  let b ← flagOr names true g.condition
  if !b then return false
  match g.whenDealt with
  | none => return true
  | some m =>
    let all ← flagOr names false cumulative
    m.acceptsSome names.deck (held.used all)

/-- Keeps as many entries as the limit allows, chosen at random, in a random order. -/
def fit (entries : List Entry) (limit : Option Nat) : Eval Run (List Entry) := do
  let kept ← match limit with
    | some n => chooseUpTo entries n
    | none => pure entries
  shuffled kept

/-! ## Deals -/

/-- The members who hold a card that a matcher accepts. -/
def holders (names : Names) (held : Holdings) (m : Matcher) : List String → Eval Run (List String)
  | [] => pure []
  | member :: members => do
    let b ← m.acceptsSome names.deck (held.of member)
    let others ← holders names held m members
    return if b then member :: others else others

/-- One field for each size of hands, the largest first, with the members in a random order. -/
def sizeFields : List (Nat × List String) → Eval Run (List Field)
  | [] => pure []
  | (n, members) :: rest => do
    let members ← shuffled members
    let others ← sizeFields rest
    return ⟨itemCount n, ", ".intercalate members, false⟩ :: others

/-- Tells a member the cards of a hand, if there are any. -/
def sendHand (t : Transcript) (hand : Hand) : Transcript :=
  if hand.2 = [] then t else t.send hand.1 [⟨handName, lines hand.2, false⟩]

/-- What a moderator is told of a deal: every hand, and the cards that nobody got. -/
def moderatorFields (d : Dealt) : List Field :=
  d.hands.map (fun hand => ⟨hand.1, listing hand.2, false⟩)
    ++ if d.leftover = [] then [] else [⟨undealtName, lines d.leftover, false⟩]

/-- Tells who got what. Without a moderator everybody is told how many cards nobody got. -/
def report (moderator : Option String) (d : Dealt) (t : Transcript) : Transcript :=
  let t := d.hands.foldl sendHand t
  match moderator with
  | some person => t.send person (moderatorFields d)
  | none =>
    if d.leftover = [] then t
    else t.tell [⟨undealtName, itemCount d.leftover.length, false⟩]

/-- Runs a deal rule. -/
def DealRule.run (rule : DealRule) (names : Names) (seats : Seats) (game : Game) :
    Eval Run Game := do
  let pile ← rule.deal.build names
  let pile ← shuffled pile
  let recipients ← match rule.recipients with
    | some m => holders names game.held m seats.members
    | none => pure seats.members
  let recipients ← shuffled recipients
  let limit ← limitOf names rule.limit
  let d := Dealt.ofPile pile recipients limit
  let fields ← sizeFields d.bySize
  return ⟨game.held.record d, report seats.moderator d (game.told.tell fields)⟩

/-! ## Reveals -/

/-- The cards of another member that are told for one card. -/
def revealedCards (names : Names) (rule : RevealRule) (hideSame : Bool) (card other : String) :
    List String → Eval Run (List Entry)
  | [] => pure []
  | theirs :: cards => do
    let b ← if hideSame && theirs = card then pure false
      else rule.cards.accepts names.deck theirs
    let others ← revealedCards names rule hideSame card other cards
    return if b then (other, rule.label.getD theirs) :: others else others

/-- What is told of the other members for one card. -/
def revealedHands (names : Names) (rule : RevealRule) (hideSame : Bool) (recipient card : String) :
    List Hand → Eval Run (List Entry)
  | [] => pure []
  | (other, cards) :: hands => do
    let entries ← if other = recipient then pure []
      else revealedCards names rule hideSame card other cards
    let others ← revealedHands names rule hideSame recipient card hands
    return entries ++ others

/-- What a recipient is told for the cards of a hand. -/
def revealedTo (names : Names) (rule : RevealRule) (hideSame : Bool) (hands : List Hand)
    (recipient : String) : List String → Eval Run (List Entry)
  | [] => pure []
  | card :: own => do
    let b ← rule.audience.accepts names.deck card
    let entries ← if b then revealedHands names rule hideSame recipient card hands else pure []
    let others ← revealedTo names rule hideSame hands recipient own
    return entries ++ others

/-- Tells each recipient in turn. -/
def revealAll (names : Names) (rule : RevealRule) (hideSame : Bool) (limit : Option Nat)
    (hands : List Hand) : List Hand → Transcript → Eval Run Transcript
  | [], t => pure t
  | (recipient, own) :: rest, t => do
    let entries ← revealedTo names rule hideSame hands recipient own
    let entries ← fit (distinct entries) limit
    revealAll names rule hideSame limit hands rest (t.send recipient (entries.map Entry.field))

/-- Runs a reveal rule. -/
def RevealRule.run (rule : RevealRule) (names : Names) (game : Game) : Eval Run Game := do
  let cumulative ← flagOr names false rule.cumulative
  let hideSame ← flagOr names false rule.hideSame
  let limit ← limitOf names rule.limit
  let hands := game.held.hands cumulative
  let told ← revealAll names rule hideSame limit hands hands game.told
  return { game with told }

/-! ## Announcements -/

/-- The cards of the members that a matcher accepts. -/
def matching (names : Names) (label : Option String) (m : Matcher) :
    List (String × String) → Eval Run (List Entry)
  | [] => pure []
  | (member, card) :: rest => do
    let b ← m.accepts names.deck card
    let others ← matching names label m rest
    return if b then (member, label.getD card) :: others else others

/-- What is announced for each target. -/
def announced (names : Names) (label : Option String) (limit : Option Nat)
    (cards : List (String × String)) : List Matcher → Eval Run (List Entry)
  | [] => pure []
  | m :: ms => do
    let entries ← matching names label m cards
    let entries ← fit (distinct entries) limit
    let others ← announced names label limit cards ms
    return entries ++ others

/-- Runs an announce rule. -/
def AnnounceRule.run (rule : AnnounceRule) (names : Names) (game : Game) : Eval Run Game := do
  let cumulative ← flagOr names false rule.cumulative
  let limit ← limitOf names rule.limit
  let hands := game.held.hands cumulative
  let cards := hands.flatMap fun hand => hand.2.map fun card => (hand.1, card)
  let entries ← announced names rule.label limit cards rule.announce.targets
  let entries ← shuffled entries
  return { game with told := game.told.tell (entries.map Entry.field) }

/-! ## Rules -/

/-- Whether a rule runs. An explanation always does. -/
def Rule.runs (names : Names) (held : Holdings) : Rule → Eval Run Bool
  | .deal r => r.guard.passes names r.cumulative held
  | .reveal r => r.guard.passes names r.cumulative held
  | .announce r => r.guard.passes names r.cumulative held
  | .explain _ => pure true

/-- Runs a rule, whatever its guard says. -/
def Rule.run (names : Names) (seats : Seats) (game : Game) : Rule → Eval Run Game
  | .deal r => r.run names seats game
  | .reveal r => r.run names game
  | .announce r => r.run names game
  | .explain r => pure { game with told := game.told.tell [⟨r.explain, r.text, false⟩] }

/-- Runs rules one after the other. The first that fails ends the game. -/
def playFrom (names : Names) (seats : Seats) (game : Game) : List Rule → Eval Run Game
  | [] => pure game
  | rule :: rules => do
    let b ← rule.runs names game.held
    let game ← if b then rule.run names seats game else pure game
    playFrom names seats game rules

/-- Plays the rules of a script from the start. -/
def play (setup : Setup) (seats : Seats) (rules : List Rule) : Eval Run Transcript := do
  let game ← playFrom (.of setup) seats {} rules
  return game.told

end Dealer
