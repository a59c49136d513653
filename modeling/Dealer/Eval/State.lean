-- Resolving expressions. What was resolved stays known, even when something else
-- fails afterwards.
import Dealer.Eval.Memo
import Dealer.Generator.Sample

namespace Dealer

/-- Something that is worked out on a state and may fail. A failure keeps the state. -/
abbrev Eval (σ α : Type) := EStateM EvalError σ α

/-- What changes in the course of a game: what is known of the parameters, and the generator. -/
structure Run where
  memo : Memo
  generator : Generator
  deriving DecidableEq

namespace Run

/-- The start of a game. -/
def start (generator : Generator) : Run := ⟨[], generator⟩

end Run

namespace Eval

variable {σ α : Type}

/-- A result that needs no state. -/
def ofExcept : Except EvalError α → Eval σ α
  | .ok a => pure a
  | .error e => throw e

/-- Something that needs no generator. -/
def onMemo (x : Eval Memo α) : Eval Run α := fun run =>
  match x run.memo with
  | .ok a memo => .ok a { run with memo }
  | .error e memo => .error e { run with memo }

/-- Something drawn from the generator. -/
def draw (x : Generator → α × Generator) : Eval Run α := fun run =>
  let (a, generator) := x run.generator
  .ok a { run with generator }

end Eval
end Dealer
