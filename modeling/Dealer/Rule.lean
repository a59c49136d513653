-- The rules of a script, which are run one after the other.
import Dealer.Expr.Deck
import Dealer.Expr.Matcher
import Dealer.Shape

namespace Dealer

/-- When a rule runs: its flag holds, and some label dealt before matches. What is absent holds. -/
structure Guard where
  condition : Option Flag := none
  whenDealt : Option Matcher := none
  deriving Inhabited

/-- Shuffle a deck and deal it round the members. -/
structure DealRule where
  deal : Deck
  /-- Deal only to members who hold a matching card. -/
  recipients : Option Matcher := none
  /-- The largest number of cards for one member. -/
  limit : Option Quantity := none
  cumulative : Option Flag := none
  guard : Guard := {}

/-- Tell the holders of some cards in private who else holds some cards. -/
structure RevealRule where
  /-- The cards that are told of. -/
  cards : Matcher
  /-- The cards whose holders are told. -/
  audience : Matcher
  /-- What is told in place of the card. -/
  label : Option String := none
  /-- The largest number of things that one member is told. -/
  limit : Option Quantity := none
  hideSame : Option Flag := none
  cumulative : Option Flag := none
  guard : Guard := {}

/-- Tell everybody who holds some cards. -/
structure AnnounceRule where
  announce : Matcher
  /-- What is told in place of the card. -/
  label : Option String := none
  /-- The largest number of things that are told for one target. -/
  limit : Option Quantity := none
  cumulative : Option Flag := none
  guard : Guard := {}

/-- Tell everybody a fixed text. -/
structure ExplainRule where
  explain : String
  text : String

/-- A rule. -/
inductive Rule
  | deal (rule : DealRule)
  | reveal (rule : RevealRule)
  | announce (rule : AnnounceRule)
  | explain (rule : ExplainRule)

namespace Rule

/-- The kind of a rule. -/
def kind : Rule → RuleKind
  | .deal _ => .deal
  | .reveal _ => .reveal
  | .announce _ => .announce
  | .explain _ => .explain

/-! ## Rules as documents -/

def flag : Document → Except ShapeError Flag := Document.expr? .flag Flag.ofDocument?
def quantity : Document → Except ShapeError Quantity :=
  Document.expr? .quantity Quantity.ofDocument?
def deck : Document → Except ShapeError Deck := Document.expr? .deck Deck.ofDocument?
def matcher : Document → Except ShapeError Matcher := Document.expr? .matcher Matcher.ofDocument?

/-- The guard among the members of a rule. -/
def guardOf (fields : Fields) : Except ShapeError Guard := do
  let condition ← fields.optional "if" flag
  let whenDealt ← fields.optional "whenDealt" matcher
  return { condition, whenDealt }

/-- A deal rule. The members are read in the order of their keys, here and below, and the guard
after all others. -/
def dealOf (fields : Fields) : Except ShapeError DealRule := do
  let cumulative ← fields.optional "cumulative" flag
  let deal ← fields.read? "deal" deck
  let recipients ← fields.optional "for" matcher
  let limit ← fields.optional "limit" quantity
  let deal ← require "deal" deal
  let guard ← guardOf fields
  return { deal, recipients, limit, cumulative, guard }

def revealOf (fields : Fields) : Except ShapeError RevealRule := do
  let label ← fields.optional "as" Document.text?
  let cumulative ← fields.optional "cumulative" flag
  let hideSame ← fields.optional "hideSame" flag
  let limit ← fields.optional "limit" quantity
  let cards ← fields.read? "show" matcher
  let audience ← fields.read? "to" matcher
  let cards ← require "show" cards
  let audience ← require "to" audience
  let guard ← guardOf fields
  return { cards, audience, label, limit, hideSame, cumulative, guard }

def announceOf (fields : Fields) : Except ShapeError AnnounceRule := do
  let announce ← fields.read? "announce" matcher
  let label ← fields.optional "as" Document.text?
  let cumulative ← fields.optional "cumulative" flag
  let limit ← fields.optional "limit" quantity
  let announce ← require "announce" announce
  let guard ← guardOf fields
  return { announce, label, limit, cumulative, guard }

def explainOf (fields : Fields) : Except ShapeError ExplainRule := do
  let text ← fields.read? "as" Document.text?
  let explain ← fields.read? "explain" Document.text?
  let explain ← require "explain" explain
  let text ← require "as" text
  return { explain, text }

/-- The rule that a document describes. The one kind whose key it has decides how it is read. -/
def ofDocument : Document → Except ShapeError Rule
  | .object fields =>
    match RuleKind.all.filter fun kind => ByName.has kind.key fields with
    | [] => .error .noKind
    | [kind] =>
      Except.mapError (ShapeError.inRule kind) <|
        match kind with
        | .deal => .deal <$> dealOf fields
        | .reveal => .reveal <$> revealOf fields
        | .announce => .announce <$> announceOf fields
        | .explain => .explain <$> explainOf fields
    | kinds => .error (.manyKinds kinds)
  | d => .error (.noRule d)

end Rule
end Dealer
