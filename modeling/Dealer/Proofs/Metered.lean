-- Evaluation under a meter. Every call of an evaluator, and every look-up of a
-- parameter, spends one unit of a budget and checks the names on the way first.
-- A metered evaluation stops early when the budget is spent or the check fails.
-- It recurses on the budget alone, so it ends on every setup.
import Dealer.Proofs.Depth

namespace Dealer

/-! ## What is checked -/

/-- What holds of the names on the way at every call: they are parameters of the setup, none twice
and none known, so that there are no more of them than the setup has entries. -/
structure OnCourse (setup : Setup) (chain : Chain) (m : Memo) : Prop where
  nodup : chain.Nodup
  named : ∀ name ∈ chain, name ∈ setup.names
  clear : Clear chain m
  short : chain.length ≤ setup.size

instance (chain : Chain) (m : Memo) : Decidable (Clear chain m) :=
  inferInstanceAs (Decidable (∀ name ∈ chain, m.get? name = none))

instance (setup : Setup) (chain : Chain) (m : Memo) : Decidable (OnCourse setup chain m) :=
  decidable_of_iff (chain.Nodup ∧ (∀ name ∈ chain, name ∈ setup.names) ∧ Clear chain m ∧
      chain.length ≤ setup.size)
    ⟨fun ⟨h₁, h₂, h₃, h₄⟩ => ⟨h₁, h₂, h₃, h₄⟩, fun ⟨h₁, h₂, h₃, h₄⟩ => ⟨h₁, h₂, h₃, h₄⟩⟩

/-- Why a metered evaluation gives no result. -/
inductive Stop
  /-- The evaluation itself fails. -/
  | failed (e : EvalError)
  /-- The budget is spent. -/
  | spent
  /-- The names on the way are off course. -/
  | astray
  deriving DecidableEq

/-- An evaluation under a meter. -/
abbrev Metered (σ α : Type) := EStateM Stop σ α

variable {σ α β ε : Type}

/-- An evaluation that spends nothing. -/
def Eval.free (x : Eval σ α) : Metered σ α := fun s =>
  match x s with
  | .ok a t => .ok a t
  | .error e t => .error (.failed e) t

namespace Metered

/-- Goes on only when the names on the way are on course. -/
def watch [Remembers σ] (setup : Setup) (chain : Chain) : Metered σ Unit := fun s =>
  if OnCourse setup chain (memo s) then .ok () s else .error .astray s

/-- Something that needs no generator. -/
def onMemo (x : Metered Memo α) : Metered Run α := fun run =>
  match x run.memo with
  | .ok a memo => .ok a { run with memo }
  | .error e memo => .error e { run with memo }

/-- The look-up of a parameter, with a metered evaluation of what it stands for. -/
def lookUp [Remembers σ] (p : Parameter ε β) (setup : Setup) (chain : Chain)
    (resolve : ε → Metered σ β) (name : String) : Metered σ (Option β) := fun s =>
  match (memo s).find setup chain name with
  | .known value =>
    match p.kept? value with
    | some b => .ok (some b) s
    | none => .error (.failed (.wrongKind name p.kind)) s
  | .circle path => .error (.failed (.recursive path)) s
  | .absent => .ok none s
  | .fresh d _ =>
    match p.read d with
    | none => .error (.failed (.wrongKind name p.kind)) s
    | some e =>
      match resolve e s with
      | .ok b t => .ok (some b) (remember t ((memo t).put name (p.keep b)))
      | .error stop t => .error stop t

/-- Joins decks as they are built, and checks their common size after each. -/
def gather (build : Deck → Metered Run (List String)) :
    Nat → List Deck → Metered Run (List String)
  | _, [] => pure []
  | size, d :: ds => do
    let cards ← build d
    let size := size + cards.length
    (Eval.ofExcept (checkSize size)).free
    let others ← gather build size ds
    return cards ++ others

/-- Builds so many groups, each picked anew, and joins them. -/
def gatherPicked (build : Deck → Metered Run (List String)) (groups : Array Deck) :
    Nat → Nat → Metered Run (List String)
  | _, 0 => pure []
  | size, n + 1 => do
    let i ← (pickPlace .draw groups.size).free
    let cards ← groups[i]?.elim (pure []) build
    let size := size + cards.length
    (Eval.ofExcept (checkSize size)).free
    let others ← gatherPicked build groups size n
    return cards ++ others

end Metered

/-! ## One layer of calls -/

/-- The evaluators that call each other, one for each kind of call. -/
structure Evaluators where
  quantity : Quantity → Metered Memo Float
  flag : Flag → Metered Memo Bool
  labels : LabelSet → Metered Run (List String)
  fold : SetOp → List LabelSet → Metered Run (List String)
  cards : Deck → Metered Run (List String)
  accepts : String → Matcher → Metered Run Bool
  number? : String → Metered Memo (Option Float)
  flag? : String → Metered Memo (Option Bool)
  deck? : String → Metered Run (Option (List String))

namespace Evaluators

/-- The evaluators for which no budget is left. -/
def broke : Evaluators where
  quantity _ := throw .spent
  flag _ := throw .spent
  labels _ := throw .spent
  fold _ _ := throw .spent
  cards _ := throw .spent
  accepts _ _ := throw .spent
  number? _ := throw .spent
  flag? _ := throw .spent
  deck? _ := throw .spent

variable (calls : Evaluators)

/-- What a look-up gives where the parameter must be there. -/
def orUndefined (name : String) (found : Option β) : Metered σ β :=
  (Parameter.orUndefined name found : Eval σ β).free

/-- A count among the parts of a deck. -/
def count (what : Counted) (q : Quantity) : Metered Run Nat :=
  Metered.onMemo (do
    let x ← calls.quantity q
    (Eval.ofExcept (toCount what x)).free)

/-- The deck of a parameter, or one card with the label where no parameter has the name. -/
def cardsOf (label : String) : Metered Run (List String) := do
  match ← calls.deck? (normalize label) with
  | some deck => return deck
  | none => return [normalize label]

/-- The deck that a name stands for. A parameter that is no deck counts as none. -/
def deckIfAny (name : String) : Metered Run (Option (List String)) := fun run =>
  match calls.deck? name run with
  | .error (.failed (.wrongKind found kind)) run =>
    if found = name then .ok none run else .error (.failed (.wrongKind found kind)) run
  | result => result

/-- Evaluates a quantity by calls for its parts. -/
def quantityStep : Quantity → Metered Memo Float
  | .number x => pure x
  | .param name => do
    let found ← calls.number? (normalize name)
    orUndefined (normalize name) found
  | .fold op [] => throw (.failed (.noOperands op.key))
  | .fold op (q :: qs) => do
    let x ← calls.quantity q
    qs.foldlM (fun x q => op.apply x <$> calls.quantity q) x

/-- Evaluates a flag by calls for its parts. -/
def flagStep : Flag → Metered Memo Bool
  | .const b => pure b
  | .param name => do
    let found ← calls.flag? (normalize name)
    orUndefined (normalize name) found
  | .and parts => parts.allM calls.flag
  | .or parts => parts.anyM calls.flag
  | .not part => (fun b => !b) <$> calls.flag part

/-- Evaluates a set by calls for its parts. -/
def labelsStep : LabelSet → Metered Run (List String)
  | .label s => distinct <$> calls.cardsOf s
  | .list parts => parts.foldlM (fun labels s => SetOp.union.apply labels <$> calls.labels s) []
  | .fold op parts => calls.fold op parts

/-- Evaluates an operation on sets by calls for its parts. -/
def foldStep (op : SetOp) : List LabelSet → Metered Run (List String)
  | [] => pure []
  | s :: ss => do
    let labels ← calls.labels s
    ss.foldlM (fun labels s => op.apply labels <$> calls.labels s) labels

/-- Builds a deck by calls for its parts. -/
def cardsStep : Deck → Metered Run (List String)
  | .label s => calls.cardsOf s
  | .concat parts => Metered.gather calls.cards 0 parts
  | .choose n source => do
    let n ← calls.count .choose n
    let cards ← calls.cards source
    (chooseExactly .items cards n).free
  | .chooseGroups n groups => do
    let n ← calls.count .choose n
    (Eval.refuse (groups.length < n) (.tooFew .groups n groups.length)).free
    let places ← (Eval.draw (Generator.choosePlaces groups.length n)).free
    Metered.gather calls.cards 0 (Generator.itemsAt groups places)
  | .draw n source => do
    let n ← calls.count .draw n
    let cards ← calls.cards source
    (drawCards .draw cards.toArray n).free
  | .drawGroups n groups => do
    let n ← calls.count .draw n
    Metered.gatherPicked calls.cards groups.toArray 0 n
  | .duplicate n kinds source => do
    let n ← calls.count .duplicate n
    let k ← kinds.elim (pure 1) (calls.count .kinds)
    let cards ← calls.cards source
    (chooseExactly .items cards k >>= fun chosen => drawCards .duplicate chosen.toArray n).free
  | .first n source => do
    let n ← calls.count .first n
    let cards ← calls.cards source
    (Eval.refuse (cards.length < n) (.tooFew .items n cards.length)).free
    return cards.take n
  | .last n source => do
    let n ← calls.count .last n
    let cards ← calls.cards source
    (Eval.refuse (cards.length < n) (.tooFew .items n cards.length)).free
    return cards.drop (cards.length - n)
  | .cross left right separator => do
    let left ← calls.cards left
    let right ← calls.cards right
    let size := left.length * right.length
    (Eval.refuse (maxCount < size) (.tooLarge .cross (Float.ofNat size))).free
    (shuffled (crossPairs (separator.getD defaultSeparator) left right)).free
  | .zip left right separator => do
    let left ← calls.cards left
    let right ← calls.cards right
    let left ← (shuffled left).free
    let right ← (shuffled right).free
    return zipPairs (separator.getD defaultSeparator) left right
  | .cond test yes no => do
    let b ← Metered.onMemo (calls.flag test)
    if b then calls.cards yes else no.elim (pure []) calls.cards
  | .set op parts => calls.fold op parts

/-- Matches a label by calls for the parts of a matcher. -/
def acceptsStep (label : String) : Matcher → Metered Run Bool
  | .text s => do
    match ← calls.deckIfAny (normalize s) with
    | some deck => return decide (label ∈ deck)
    | none => return occursIn (normalize s).toList label.toList
  | .any parts => parts.anyM (calls.accepts label)
  | .test t s => pure (t.passes label (normalize s))
  | .pattern p =>
    match p.pattern? with
    | some sought => pure (sought.foundIn label)
    | none => throw (.failed (.invalidPattern p.text))
  | .all _ => pure true
  | .not part => (fun b => !b) <$> calls.accepts label part
  | .set op parts => (fun labels => decide (label ∈ labels)) <$> calls.fold op parts

/-- The evaluators behind a chain, when `deeper` are those that may be called from them. -/
def layer (setup : Setup) (deeper : Chain → Evaluators) (chain : Chain) : Evaluators where
  quantity q := do Metered.watch setup chain; (deeper chain).quantityStep q
  flag f := do Metered.watch setup chain; (deeper chain).flagStep f
  labels s := do Metered.watch setup chain; (deeper chain).labelsStep s
  fold op parts := do Metered.watch setup chain; (deeper chain).foldStep op parts
  cards d := do Metered.watch setup chain; (deeper chain).cardsStep d
  accepts label m := do Metered.watch setup chain; (deeper chain).acceptsStep label m
  number? name := do
    Metered.watch setup chain
    Metered.lookUp .number setup chain (deeper (chain ++ [name])).quantity name
  flag? name := do
    Metered.watch setup chain
    Metered.lookUp .flag setup chain (deeper (chain ++ [name])).flag name
  deck? name := do
    Metered.watch setup chain
    Metered.lookUp .deck setup chain (deeper (chain ++ [name])).cards name

end Evaluators

/-- The evaluators behind a chain with a budget for calls inside one another. -/
def metered (setup : Setup) : Nat → Chain → Evaluators
  | 0 => fun _ => .broke
  | budget + 1 => .layer setup (metered setup budget)

end Dealer
