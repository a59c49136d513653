-- Building decks.
import Dealer.Eval.Flag
import Dealer.Eval.LabelSet
import Dealer.Eval.Quantity
import Dealer.Expr.Deck

namespace Dealer

/-! ## Cards drawn from a deck -/

/-- What separates the labels of a pair. -/
def defaultSeparator : String := " • "

/-- Chooses exactly so many cards, each at most once. -/
def chooseExactly (what : Counted) (source : List String) (n : Nat) : Eval Run (List String) :=
  if source.length < n then throw (.tooFew what n source.length)
  else Eval.draw (Generator.sample source n)

/-- Chooses so many things, or all when there are fewer. -/
def chooseUpTo {α : Type} (source : List α) (n : Nat) : Eval Run (List α) :=
  Eval.draw (Generator.sample source n)

/-- Shuffles things. -/
def shuffled {α : Type} (items : List α) : Eval Run (List α) := Eval.draw (Generator.shuffle items)

/-- Picks the place of one of `n` things. There must be one. -/
def pickPlace (what : Counted) (n : Nat) : Eval Run Nat := do
  match ← Eval.draw (Generator.pick n) with
  | some i => return i
  | none => throw (.emptySource what)

/-- Draws so many cards one by one, and puts each back. To draw none, no deck is needed. -/
def drawCards (what : Counted) (source : Array String) : Nat → Eval Run (List String)
  | 0 => pure []
  | n + 1 => do
    let i ← pickPlace what source.size
    let others ← drawCards what source n
    return source[i]?.toList ++ others

/-- The label of a pair. -/
def pairLabel (separator : String) (a b : String) : String := a ++ separator ++ b

/-- Every card of one deck with every card of the other, the first deck in the outer turn. -/
def crossPairs (separator : String) (left right : List String) : List String :=
  left.flatMap fun a => right.map fun b => pairLabel separator a b

/-- The cards of two decks in pairs, then those without a partner. -/
def zipPairs (separator : String) (left right : List String) : List String :=
  left.zipWith (pairLabel separator) right
    ++ left.drop right.length ++ right.drop left.length

/-! ## Decks -/

/-- What names stand for at some place of a script. -/
structure Names where
  number : String → Eval Memo Float
  flag : String → Eval Memo Bool
  deck : DeckLook

/-- Joins decks as they are built. Their common size is checked after each, and starts with
`size`. -/
def gather : Nat → List (Eval Run (List String)) → Eval Run (List String)
  | _, [] => pure []
  | size, part :: parts => do
    let cards ← part
    let size := size + cards.length
    Eval.ofExcept (checkSize size)
    let others ← gather size parts
    return cards ++ others

/-- Builds so many groups, each picked anew, and joins them. -/
def gatherPicked (groups : Array (Eval Run (List String))) : Nat → Nat → Eval Run (List String)
  | _, 0 => pure []
  | size, n + 1 => do
    let i ← pickPlace .draw groups.size
    let cards ← groups[i]?.getD (pure [])
    let size := size + cards.length
    Eval.ofExcept (checkSize size)
    let others ← gatherPicked groups size n
    return cards ++ others

namespace Deck

/-- A count among the parts of a deck. -/
def count (names : Names) (what : Counted) (q : Quantity) : Eval Run Nat :=
  Eval.onMemo (q.count names.number what)

mutual

/-- Builds the deck that an expression describes. Counts are resolved before the deck that they
are taken from. -/
def build (names : Names) : Deck → Eval Run (List String)
  | .label s => cardsOf names.deck s
  | .concat parts => gather 0 (builders names parts)
  | .choose n source => do
    let n ← count names .choose n
    let cards ← build names source
    chooseExactly .items cards n
  | .chooseGroups n groups => do
    let n ← count names .choose n
    if groups.length < n then throw (.tooFew .groups n groups.length)
    let places ← Eval.draw (Generator.choosePlaces groups.length n)
    gather 0 (Generator.itemsAt (builders names groups) places)
  | .draw n source => do
    let n ← count names .draw n
    let cards ← build names source
    drawCards .draw cards.toArray n
  | .drawGroups n groups => do
    let n ← count names .draw n
    gatherPicked (builders names groups).toArray 0 n
  | .duplicate n kinds source => do
    let n ← count names .duplicate n
    let k ← match kinds with
      | some k => count names .kinds k
      | none => pure 1
    let cards ← build names source
    let chosen ← chooseExactly .items cards k
    drawCards .duplicate chosen.toArray n
  | .first n source => do
    let n ← count names .first n
    let cards ← build names source
    if cards.length < n then throw (.tooFew .items n cards.length)
    return cards.take n
  | .last n source => do
    let n ← count names .last n
    let cards ← build names source
    if cards.length < n then throw (.tooFew .items n cards.length)
    return cards.drop (cards.length - n)
  | .cross left right separator => do
    let left ← build names left
    let right ← build names right
    let size := left.length * right.length
    if maxCount < size then throw (.tooLarge .cross (Float.ofNat size))
    shuffled (crossPairs (separator.getD defaultSeparator) left right)
  | .zip left right separator => do
    let left ← build names left
    let right ← build names right
    let left ← shuffled left
    let right ← shuffled right
    return zipPairs (separator.getD defaultSeparator) left right
  | .cond test yes no => do
    let b ← Eval.onMemo (test.eval names.flag)
    if b then build names yes else buildOr names no
  | .set op parts => LabelSet.evalFold names.deck op parts

/-- What builds each of some decks. -/
def builders (names : Names) : List Deck → List (Eval Run (List String))
  | [] => []
  | d :: ds => build names d :: builders names ds

/-- Builds a deck that may be absent. -/
def buildOr (names : Names) : Option Deck → Eval Run (List String)
  | none => pure []
  | some d => build names d

end

end Deck

/-! ## Parameters -/

/-- The deck of a parameter, if a parameter has the name. It is built once and known from then
on. -/
def deckOf (setup : Setup) (chain : Chain) (name : String) : Eval Run (Option (List String)) :=
  fun run =>
    match run.memo.find setup chain name with
    | .known (.deck cards) => .ok (some cards) run
    | .known _ => .error (.wrongKind name .deck) run
    | .circle path => .error (.recursive path) run
    | .absent => .ok none run
    | .fresh d _h =>
      match Deck.ofDocument? d with
      | none => .error (.wrongKind name .deck) run
      | some deck =>
        let names : Names :=
          ⟨numberOf setup (chain ++ [name]), flagOf setup (chain ++ [name]),
            fun n => deckOf setup (chain ++ [name]) n⟩
        match deck.build names run with
        | .ok cards run => .ok (some cards) { run with memo := run.memo.put name (.deck cards) }
        | .error e run => .error e run
termination_by untouched setup chain
decreasing_by exact untouched_lt _h

/-- What names stand for while the names of a chain are being resolved. -/
def Names.within (setup : Setup) (chain : Chain) : Names :=
  ⟨numberOf setup chain, flagOf setup chain, deckOf setup chain⟩

/-- What names stand for in the rules of a script. -/
def Names.of (setup : Setup) : Names := .within setup []

end Dealer
