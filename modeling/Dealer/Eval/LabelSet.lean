-- The labels that set expressions stand for.
import Dealer.Distinct
import Dealer.Eval.State
import Dealer.Expr.LabelSet

namespace Dealer

/-- What a name stands for in a deck: the deck of a parameter, if a parameter has the name. -/
abbrev DeckLook := String → Eval Run (Option (List String))

/-- The deck of a parameter, or one card with the label where no parameter has the name. -/
def cardsOf (look : DeckLook) (label : String) : Eval Run (List String) := do
  let name := normalize label
  match ← look name with
  | some deck => return deck
  | none => return [name]

namespace SetOp

/-- One step of an operation on sets. -/
def apply : SetOp → List String → List String → List String
  | .union, first, second => distinct (first ++ second)
  | .intersect, first, second =>
    let kept := Std.HashSet.ofList second
    first.filter fun l => kept.contains l
  | .except, first, second =>
    let dropped := Std.HashSet.ofList second
    first.filter fun l => !dropped.contains l

end SetOp

namespace LabelSet

mutual

/-- The labels of a set, when `look` tells what a name stands for. The parts of an operation are
resolved one after the other. -/
def eval (look : DeckLook) : LabelSet → Eval Run (List String)
  | .label s => do
    let cards ← cardsOf look s
    return distinct cards
  | .list parts => evalFrom look .union [] parts
  | .fold op parts => evalFold look op parts

/-- The labels of an operation. Without parts there are none. -/
def evalFold (look : DeckLook) (op : SetOp) : List LabelSet → Eval Run (List String)
  | [] => pure []
  | s :: ss => do
    let labels ← eval look s
    evalFrom look op labels ss

/-- Goes on with an operation from the labels that its first parts give. -/
def evalFrom (look : DeckLook) (op : SetOp) :
    List String → List LabelSet → Eval Run (List String)
  | labels, [] => pure labels
  | labels, s :: ss => do
    let more ← eval look s
    evalFrom look op (op.apply labels more) ss

end

end LabelSet
end Dealer
