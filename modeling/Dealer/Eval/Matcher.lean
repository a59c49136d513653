-- Which labels a matcher accepts.
import Dealer.Eval.Deck
import Dealer.Expr.Matcher

namespace Dealer

/-- Whether a label passes a comparison with a text. -/
def LabelTest.passes (t : LabelTest) (label text : String) : Bool :=
  let l := label.toList
  let s := text.toList
  match t with
  | .is => label == text
  | .isNot => label != text
  | .startsWith => s.isPrefixOf l
  | .startsWithout => !s.isPrefixOf l
  | .endsWith => s.isSuffixOf l
  | .endsWithout => !s.isSuffixOf l
  | .includes => occursIn s l
  | .excludes => !occursIn s l

/-- The deck that a name stands for. A parameter that is no deck counts as none. -/
def deckIfAny (look : DeckLook) (name : String) : Eval Run (Option (List String)) := fun run =>
  match look name run with
  | .error (.wrongKind found kind) run =>
    if found = name then .ok none run else .error (.wrongKind found kind) run
  | result => result

namespace Matcher

mutual

/-- Whether a matcher accepts a label. -/
def accepts (look : DeckLook) (label : String) : Matcher → Eval Run Bool
  | .text s => do
    let name := normalize s
    match ← deckIfAny look name with
    | some deck => return decide (label ∈ deck)
    | none => return occursIn name.toList label.toList
  | .any parts => someAccepts look label parts
  | .test t s => pure (t.passes label (normalize s))
  | .pattern p =>
    match p.pattern? with
    | some sought => pure (sought.foundIn label)
    | none => throw (.invalidPattern p.text)
  | .all _ => pure true
  | .not part => do
    let b ← accepts look label part
    return !b
  | .set op parts => do
    let labels ← LabelSet.evalFold look op parts
    return decide (label ∈ labels)

/-- Whether one of some matchers accepts a label. The first that does decides. -/
def someAccepts (look : DeckLook) (label : String) : List Matcher → Eval Run Bool
  | [] => pure false
  | m :: ms => do
    let b ← accepts look label m
    if b then pure true else someAccepts look label ms

end

/-- Whether a matcher accepts one of some labels. The first that it accepts decides. -/
def acceptsSome (look : DeckLook) (m : Matcher) : List String → Eval Run Bool
  | [] => pure false
  | label :: labels => do
    let b ← m.accepts look label
    if b then pure true else acceptsSome look m labels

end Matcher
end Dealer
