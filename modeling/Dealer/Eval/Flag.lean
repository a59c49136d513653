-- The truth values that flags stand for.
import Dealer.Eval.State
import Dealer.Expr.Flag

namespace Dealer

namespace Flag

mutual

/-- The truth value that a flag stands for, when `look` tells what a parameter stands for. The
parts of a connection are resolved only as far as they are needed. -/
def eval (look : String → Eval Memo Bool) : Flag → Eval Memo Bool
  | .const b => pure b
  | .param name => look (normalize name)
  | .and parts => evalAll look parts
  | .or parts => evalAny look parts
  | .not part => do
    let b ← eval look part
    return !b

/-- Whether all flags hold. The first that does not decides. -/
def evalAll (look : String → Eval Memo Bool) : List Flag → Eval Memo Bool
  | [] => pure true
  | f :: fs => do
    let b ← eval look f
    if b then evalAll look fs else pure false

/-- Whether some flag holds. The first that does decides. -/
def evalAny (look : String → Eval Memo Bool) : List Flag → Eval Memo Bool
  | [] => pure false
  | f :: fs => do
    let b ← eval look f
    if b then pure true else evalAny look fs

end

/-- The truth value of a flag that may be absent. -/
def evalOr (look : String → Eval Memo Bool) (fallback : Bool) : Option Flag → Eval Memo Bool
  | none => pure fallback
  | some f => f.eval look

end Flag

/-- The truth value of a parameter. It is resolved once and known from then on. -/
def flagOf (setup : Setup) (chain : Chain) (name : String) : Eval Memo Bool := fun memo =>
  match memo.find setup chain name with
  | .known (.option b) => .ok b memo
  | .known _ => .error (.wrongKind name .option) memo
  | .circle path => .error (.recursive path) memo
  | .absent => .error (.undefined name) memo
  | .fresh d _h =>
    match Flag.ofDocument? d with
    | none => .error (.wrongKind name .option) memo
    | some f =>
      match f.eval (fun n => flagOf setup (chain ++ [name]) n) memo with
      | .ok b memo => .ok b (memo.put name (.option b))
      | .error e memo => .error e memo
termination_by untouched setup chain
decreasing_by exact untouched_lt _h

end Dealer
