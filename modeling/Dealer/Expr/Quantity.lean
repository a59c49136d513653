-- Quantities: how many cards to draw, how many members to ask for. A quantity
-- is a number, the name of a parameter or an operation on quantities.
import Dealer.Document

namespace Dealer

/-- An operation that reduces a list of numbers from the left. -/
inductive Arith
  | plus
  | minus
  | times
  | max
  | min
  deriving DecidableEq, Repr

namespace Arith

/-- The key of the operation in a document. -/
def key : Arith → String
  | .plus => "plus"
  | .minus => "minus"
  | .times => "times"
  | .max => "max"
  | .min => "min"

/-- The operation with this key. -/
def ofKey? (key : String) : Option Arith :=
  [plus, minus, times, max, min].find? fun op => op.key = key

/-- The larger of two numbers. One that is not a number counts for nothing beside one that is, and
of two zeros the first counts. -/
def larger (x y : Float) : Float := if x.isNaN then y else if x < y then y else x

/-- The smaller of two numbers, by the same rules. -/
def smaller (x y : Float) : Float := if x.isNaN then y else if y < x then y else x

/-- One step of the reduction. -/
def apply : Arith → Float → Float → Float
  | .plus => (· + ·)
  | .minus => (· - ·)
  | .times => (· * ·)
  | .max => larger
  | .min => smaller

end Arith

/-- A numeric expression. -/
inductive Quantity
  | number (x : Float)
  | param (name : String)
  | fold (op : Arith) (operands : List Quantity)
  deriving Inhabited

namespace Quantity

mutual

/-- The quantity that a document describes. An operation is an object with one key. -/
def ofDocument? : Document → Option Quantity
  | .int n => some (.number (Float.ofInt n))
  | .float x => some (.number x)
  | .text name => some (.param name)
  | .object [(key, .list operands)] => do
    let op ← Arith.ofKey? key
    return .fold op (← ofDocuments? operands)
  | _ => none

def ofDocuments? : List Document → Option (List Quantity)
  | [] => some []
  | d :: ds => do return (← ofDocument? d) :: (← ofDocuments? ds)

end

mutual

/-- The document that describes a quantity. -/
def toDocument : Quantity → Document
  | .number x => .float x
  | .param name => .text name
  | .fold op operands => .object [(op.key, .list (toDocuments operands))]

def toDocuments : List Quantity → List Document
  | [] => []
  | q :: qs => toDocument q :: toDocuments qs

end

end Quantity
end Dealer
