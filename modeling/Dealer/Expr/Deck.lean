-- Decks: lists of labels, in which a label may occur more than once. What the
-- keys of an object are tells which kind of deck it describes.
import Dealer.Expr.Flag
import Dealer.Expr.LabelSet
import Dealer.Expr.Quantity

namespace Dealer

/-- An expression for a deck. -/
inductive Deck
  /-- The deck of a parameter, or one card with this label where no parameter has the name. -/
  | label (text : String)
  | concat (parts : List Deck)
  /-- So many cards of a deck, each at most once. -/
  | choose (count : Quantity) (source : Deck)
  /-- So many groups, each at most once. -/
  | chooseGroups (count : Quantity) (groups : List Deck)
  /-- So many cards of a deck, put back after each draw. -/
  | draw (count : Quantity) (source : Deck)
  /-- So many groups, put back after each draw. -/
  | drawGroups (count : Quantity) (groups : List Deck)
  /-- So many cards, put back after each draw, of a choice of so many kinds. -/
  | duplicate (count : Quantity) (kinds : Option Quantity) (source : Deck)
  | first (count : Quantity) (source : Deck)
  | last (count : Quantity) (source : Deck)
  /-- Every card of one deck with every card of the other. -/
  | cross (left right : Deck) (separator : Option String)
  /-- The cards of two decks in pairs, then those without a partner. -/
  | zip (left right : Deck) (separator : Option String)
  | cond (test : Flag) (yes : Deck) (no : Option Deck)
  | set (op : SetOp) (parts : List LabelSet)
  deriving Inhabited

namespace Deck

/-! ## The forms of a deck -/

/-- The members of an object, each with the deck that it describes, if it describes one. -/
abbrev Form := List (String × Document × Option Deck)

namespace Form

def entry? (form : Form) (key : String) : Option (Document × Option Deck) := List.lookup key form

/-- The deck under a key. -/
def deck? (form : Form) (key : String) : Option Deck := (form.entry? key).bind Prod.snd

/-- The list of decks under a key. -/
def decks? (form : Form) (key : String) : Option (List Deck) :=
  match form.deck? key with
  | some (.concat parts) => some parts
  | _ => none

/-- The quantity under a key. -/
def quantity? (form : Form) (key : String) : Option Quantity :=
  (form.entry? key).bind fun e => Quantity.ofDocument? e.1

/-- What stands under a key that may be missing. A null counts as missing. -/
def optional {α : Type} (form : Form) (key : String) (read : Document × Option Deck → Option α) :
    Option (Option α) :=
  match form.entry? key with
  | none => some none
  | some (.null, _) => some none
  | some e => some <$> read e

/-- The text under a key that may be missing. -/
def separator? (form : Form) : Option (Option String) :=
  form.optional "using" fun
    | (.text s, _) => some s
    | _ => none

/-- The kinds of deck that an object can describe, in the order in which they are tried. -/
def readers : List (Form → Option Deck) :=
  [fun o => do return .choose (← o.quantity? "choose") (← o.deck? "from"),
   fun o => do return .chooseGroups (← o.quantity? "choose") (← o.decks? "grouping"),
   fun o => do return .draw (← o.quantity? "repeat") (← o.deck? "from"),
   fun o => do return .drawGroups (← o.quantity? "repeat") (← o.decks? "grouping"),
   fun o => do
    return .duplicate (← o.quantity? "duplicate")
      (← o.optional "of" fun e => Quantity.ofDocument? e.1) (← o.deck? "from"),
   fun o => do return .first (← o.quantity? "first") (← o.deck? "from"),
   fun o => do return .last (← o.quantity? "last") (← o.deck? "from"),
   fun o => do return .cross (← o.deck? "cross") (← o.deck? "with") (← o.separator?),
   fun o => do return .zip (← o.deck? "zip") (← o.deck? "with") (← o.separator?),
   fun o => do
    return .cond (← (o.entry? "if").bind fun e => Flag.ofDocument? e.1) (← o.deck? "then")
      (← o.optional "else" Prod.snd),
   fun o => do
    let (op, parts) ← LabelSet.operation? (.object (o.map fun e => (e.1, e.2.1)))
    return .set op parts]

/-- The first kind of deck that fits. Keys that it does not know are passed over. -/
def read? (form : Form) : Option Deck := readers.findSome? fun reader => reader form

end Form

mutual

/-- The deck that a document describes. -/
def ofDocument? : Document → Option Deck
  | .text s => some (.label s)
  | .list parts => .concat <$> ofDocuments? parts
  | .object members => Form.read? (form members)
  | _ => none

def ofDocuments? : List Document → Option (List Deck)
  | [] => some []
  | d :: ds => do return (← ofDocument? d) :: (← ofDocuments? ds)

def form : List (String × Document) → Form
  | [] => []
  | (key, d) :: rest => (key, d, ofDocument? d) :: form rest

end

mutual

/-- The document that describes a deck, with the keys in their order. -/
def toDocument : Deck → Document
  | .label s => .text s
  | .concat parts => .list (toDocuments parts)
  | .choose n source => .object [("choose", n.toDocument), ("from", toDocument source)]
  | .chooseGroups n groups =>
    .object [("choose", n.toDocument), ("grouping", .list (toDocuments groups))]
  | .draw n source => .object [("from", toDocument source), ("repeat", n.toDocument)]
  | .drawGroups n groups =>
    .object [("grouping", .list (toDocuments groups)), ("repeat", n.toDocument)]
  | .duplicate n kinds source =>
    .object ([("duplicate", n.toDocument), ("from", toDocument source)]
      ++ (kinds.map fun k => ("of", k.toDocument)).toList)
  | .first n source => .object [("first", n.toDocument), ("from", toDocument source)]
  | .last n source => .object [("from", toDocument source), ("last", n.toDocument)]
  | .cross left right separator =>
    .object ([("cross", toDocument left)] ++ (separator.map fun s => ("using", .text s)).toList
      ++ [("with", toDocument right)])
  | .zip left right separator =>
    .object ((separator.map fun s => ("using", .text s)).toList
      ++ [("with", toDocument right), ("zip", toDocument left)])
  | .cond test yes no =>
    .object ((noDocument no).map (fun d => ("else", d))
      ++ [("if", test.toDocument), ("then", toDocument yes)])
  | .set op parts => .object [(op.key, .list (LabelSet.toDocuments parts))]

def toDocuments : List Deck → List Document
  | [] => []
  | d :: ds => toDocument d :: toDocuments ds

def noDocument : Option Deck → List Document
  | none => []
  | some d => [toDocument d]

end

end Deck
end Dealer
