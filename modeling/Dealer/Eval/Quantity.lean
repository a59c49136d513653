-- The numbers that quantities stand for.
import Dealer.Eval.Count
import Dealer.Eval.State
import Dealer.Expr.Quantity

namespace Dealer

namespace Quantity

mutual

/-- The number that a quantity stands for, when `look` tells what a parameter stands for. The
operands of an operation are resolved one after the other. -/
def eval (look : String → Eval Memo Float) : Quantity → Eval Memo Float
  | .number x => pure x
  | .param name => look (normalize name)
  | .fold op [] => throw (.noOperands op.key)
  | .fold op (q :: qs) => do
    let x ← eval look q
    evalFrom look op x qs

/-- Goes on with an operation from the value that its first operands have. -/
def evalFrom (look : String → Eval Memo Float) (op : Arith) :
    Float → List Quantity → Eval Memo Float
  | x, [] => pure x
  | x, q :: qs => do
    let y ← eval look q
    evalFrom look op (op.apply x y) qs

end

end Quantity

/-- The number of a parameter. It is resolved once and known from then on. -/
def numberOf (setup : Setup) (chain : Chain) (name : String) : Eval Memo Float := fun memo =>
  match memo.find setup chain name with
  | .known (.number x) => .ok x memo
  | .known _ => .error (.wrongKind name .number) memo
  | .circle path => .error (.recursive path) memo
  | .absent => .error (.undefined name) memo
  | .fresh d _h =>
    match Quantity.ofDocument? d with
    | none => .error (.wrongKind name .number) memo
    | some q =>
      match q.eval (fun n => numberOf setup (chain ++ [name]) n) memo with
      | .ok x memo => .ok x (memo.put name (.number x))
      | .error e memo => .error e memo
termination_by untouched setup chain
decreasing_by exact untouched_lt _h

/-- The count that a quantity stands for. -/
def Quantity.count (look : String → Eval Memo Float) (what : Counted) (q : Quantity) :
    Eval Memo Nat := do
  let x ← q.eval look
  Eval.ofExcept (toCount what x)

end Dealer
