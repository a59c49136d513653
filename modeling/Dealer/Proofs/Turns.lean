-- A game as its turns. What a rule does is worked out from the members and the cards
-- that they hold. What is told of it comes afterwards, and only then it matters
-- whether there is a moderator.
import Dealer.Play

namespace Dealer

/-! ## Turns -/

/-- What one rule does. A rule that does not run tells everybody nothing. -/
inductive Turn
  /-- Cards were dealt, and these fields tell the sizes of the hands. -/
  | dealt (d : Dealt) (sizes : List Field)
  /-- Members are told fields in private, one member after the other. -/
  | shown (messages : List (String × List Field))
  /-- Everybody is told fields. -/
  | told (fields : List Field)

/-- What a member is told of a hand. Of no cards the member is told nothing. -/
def handFields (cards : List String) : List Field :=
  if cards = [] then [] else [⟨handName, lines cards, false⟩]

namespace Turn

/-- What the members hold after a turn. -/
def hold (held : Holdings) : Turn → Holdings
  | dealt d _ => held.record d
  | shown _ => held
  | told _ => held

/-- Tells a turn to those at the table. -/
def tell (moderator : Option String) (t : Transcript) : Turn → Transcript
  | dealt d sizes => report moderator d (t.tell sizes)
  | shown messages => messages.foldl (fun t m => t.send m.1 m.2) t
  | told fields => t.tell fields

/-- What everybody is told of a turn, with a moderator or without. -/
def aloud : Turn → List Field
  | dealt _ sizes => sizes
  | shown _ => []
  | told fields => fields

/-- How many cards nobody got in a deal. Everybody is told so where there is no moderator. -/
def undealtCount : Turn → List Field
  | dealt d _ =>
    if d.leftover = [] then [] else [⟨undealtName, itemCount d.leftover.length, false⟩]
  | shown _ => []
  | told _ => []

/-- What a person is told in private of a turn, whoever the moderator is. -/
def whispers (person : String) : Turn → List Field
  | dealt d _ => d.hands.flatMap fun hand => if hand.1 = person then handFields hand.2 else []
  | shown messages => messages.flatMap fun m => if m.1 = person then m.2 else []
  | told _ => []

/-- What a moderator is told of a turn. -/
def rollUp : Turn → List Field
  | dealt d _ => moderatorFields d
  | shown _ => []
  | told _ => []

end Turn

/-! ## The turns of the rules -/

/-- Those who are dealt to. -/
def recipientsOf (names : Names) (held : Holdings) (members : List String) :
    Option Matcher → Eval Run (List String)
  | some m => holders names held m members
  | none => pure members

/-- Deals the deck of a rule. -/
def DealRule.dealing (rule : DealRule) (names : Names) (members : List String) (held : Holdings) :
    Eval Run Dealt := do
  let deck ← rule.deal.build names
  let pile ← shuffled deck
  let recipients ← recipientsOf names held members rule.recipients
  let recipients ← shuffled recipients
  let limit ← limitOf names rule.limit
  return Dealt.ofPile pile recipients limit

def DealRule.turn (rule : DealRule) (names : Names) (members : List String) (held : Holdings) :
    Eval Run Turn := do
  let d ← rule.dealing names members held
  let sizes ← sizeFields d.bySize
  return .dealt d sizes

/-- What each of some recipients is told. -/
def revealMessages (names : Names) (rule : RevealRule) (hideSame : Bool) (limit : Option Nat)
    (hands : List Hand) : List Hand → Eval Run (List (String × List Field))
  | [] => pure []
  | (recipient, own) :: rest => do
    let entries ← revealedTo names rule hideSame hands recipient own
    let entries ← fit (distinct entries) limit
    let others ← revealMessages names rule hideSame limit hands rest
    return (recipient, entries.map Entry.field) :: others

def RevealRule.turn (rule : RevealRule) (names : Names) (held : Holdings) : Eval Run Turn := do
  let cumulative ← flagOr names false rule.cumulative
  let hideSame ← flagOr names false rule.hideSame
  let limit ← limitOf names rule.limit
  let hands := held.hands cumulative
  let messages ← revealMessages names rule hideSame limit hands hands
  return .shown messages

def AnnounceRule.turn (rule : AnnounceRule) (names : Names) (held : Holdings) : Eval Run Turn := do
  let cumulative ← flagOr names false rule.cumulative
  let limit ← limitOf names rule.limit
  let cards := (held.hands cumulative).flatMap fun hand => hand.2.map fun card => (hand.1, card)
  let entries ← announced names rule.label limit cards rule.announce.targets
  let entries ← shuffled entries
  return .told (entries.map Entry.field)

/-- What a rule does, whatever its guard says. -/
def Rule.turn (names : Names) (members : List String) (held : Holdings) : Rule → Eval Run Turn
  | .deal r => r.turn names members held
  | .reveal r => r.turn names held
  | .announce r => r.turn names held
  | .explain r => pure (.told [⟨r.explain, r.text, false⟩])

/-- What a rule does when its guard is asked first. -/
def Rule.guarded (names : Names) (members : List String) (held : Holdings) (rule : Rule) :
    Eval Run Turn := do
  let b ← rule.runs names held
  if b then rule.turn names members held else pure (.told [])

/-- What rules do one after the other. -/
def turns (names : Names) (members : List String) (held : Holdings) :
    List Rule → Eval Run (List Turn)
  | [] => pure []
  | rule :: rules => do
    let turn ← rule.guarded names members held
    let others ← turns names members (turn.hold held) rules
    return turn :: others

/-! ## A game is its turns -/

/-- A game with one turn more. -/
def Game.after (moderator : Option String) (game : Game) (turn : Turn) : Game :=
  ⟨turn.hold game.held, turn.tell moderator game.told⟩

theorem revealAll_eq (names : Names) (rule : RevealRule) (hideSame : Bool) (limit : Option Nat)
    (hands rest : List Hand) (t : Transcript) :
    revealAll names rule hideSame limit hands rest t =
      (fun messages => messages.foldl (fun t m => t.send m.1 m.2) t) <$>
        revealMessages names rule hideSame limit hands rest := by
  induction rest generalizing t with
  | nil => rfl
  | cons hand rest ih =>
    obtain ⟨recipient, own⟩ := hand
    simp only [revealAll, revealMessages, ih, map_bind, map_pure, List.foldl_cons]
    simp only [map_eq_pure_bind]

theorem DealRule.run_eq (rule : DealRule) (names : Names) (seats : Seats) (game : Game) :
    rule.run names seats game =
      game.after seats.moderator <$> rule.turn names seats.members game.held := by
  simp only [DealRule.run, DealRule.turn, DealRule.dealing, map_bind, bind_assoc, map_pure,
    pure_bind]
  refine bind_congr fun deck => bind_congr fun pile => ?_
  cases rule.recipients with
  | some m => rfl
  | none => rfl

theorem Rule.run_eq (rule : Rule) (names : Names) (seats : Seats) (game : Game) :
    rule.run names seats game =
      game.after seats.moderator <$> rule.turn names seats.members game.held := by
  cases rule with
  | deal r => exact r.run_eq names seats game
  | reveal r =>
    simp only [Rule.run, Rule.turn, RevealRule.run, RevealRule.turn, revealAll_eq, map_bind,
      map_pure, bind_map_left]
    rfl
  | announce r =>
    simp only [Rule.run, Rule.turn, AnnounceRule.run, AnnounceRule.turn, map_bind, map_pure]
    rfl
  | explain r => rfl

/-- To run rules is to work their turns out and then to tell them, one after the other. -/
theorem playFrom_eq (names : Names) (seats : Seats) (game : Game) (rules : List Rule) :
    playFrom names seats game rules =
      (fun ts => ts.foldl (Game.after seats.moderator) game) <$>
        turns names seats.members game.held rules := by
  induction rules generalizing game with
  | nil => rfl
  | cons rule rules ih =>
    have skipped : game.after seats.moderator (.told []) = game := by
      simp [Game.after, Turn.hold, Turn.tell, Transcript.tell]
    simp only [playFrom, turns, Rule.guarded, map_bind, bind_assoc]
    refine bind_congr fun b => ?_
    cases b with
    | true =>
      simp only [if_true, Rule.run_eq, ih, map_eq_pure_bind, bind_assoc, pure_bind,
        List.foldl_cons]
      rfl
    | false =>
      simp only [Bool.false_eq_true, if_false, pure_bind, ih, map_eq_pure_bind, List.foldl_cons,
        skipped]
      rfl

theorem play_eq (setup : Setup) (seats : Seats) (rules : List Rule) :
    play setup seats rules =
      (fun ts => (ts.foldl (Game.after seats.moderator) {}).told) <$>
        turns (.of setup) seats.members {} rules := by
  simp only [play, playFrom_eq, map_eq_pure_bind, bind_assoc, pure_bind]

end Dealer
