-- Sets of labels. A set keeps its labels in an order but holds none twice.
import Dealer.Document

namespace Dealer

/-- An operation on sets, taken pair by pair from the left. -/
inductive SetOp
  | union
  | intersect
  | except
  deriving DecidableEq, Repr

namespace SetOp

/-- The key of the operation in a document. -/
def key : SetOp → String
  | .union => "union"
  | .intersect => "intersect"
  | .except => "except"

/-- The operation with this key. -/
def ofKey? (key : String) : Option SetOp :=
  [union, intersect, except].find? fun op => op.key = key

end SetOp

/-- An expression for a set of labels. A label that names a parameter stands for the deck of the
parameter, and a list for the union of its parts. -/
inductive LabelSet
  | label (text : String)
  | list (parts : List LabelSet)
  | fold (op : SetOp) (parts : List LabelSet)
  deriving Inhabited

namespace LabelSet

mutual

/-- The set that a document describes. An operation is an object with one key. -/
def ofDocument? : Document → Option LabelSet
  | .text s => some (.label s)
  | .list parts => .list <$> ofDocuments? parts
  | .object [(key, .list parts)] => do
    let op ← SetOp.ofKey? key
    return .fold op (← ofDocuments? parts)
  | _ => none

def ofDocuments? : List Document → Option (List LabelSet)
  | [] => some []
  | d :: ds => do return (← ofDocument? d) :: (← ofDocuments? ds)

end

mutual

/-- The document that describes a set. -/
def toDocument : LabelSet → Document
  | .label s => .text s
  | .list parts => .list (toDocuments parts)
  | .fold op parts => .object [(op.key, .list (toDocuments parts))]

def toDocuments : List LabelSet → List Document
  | [] => []
  | s :: ss => toDocument s :: toDocuments ss

end

/-- The operation and its parts, where a document describes an operation. -/
def operation? (d : Document) : Option (SetOp × List LabelSet) :=
  match ofDocument? d with
  | some (.fold op parts) => some (op, parts)
  | _ => none

end LabelSet
end Dealer
