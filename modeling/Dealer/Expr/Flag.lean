-- Flags: whether a rule runs, whether a hand stays hidden. A flag is a truth
-- value, the name of a parameter or a connection of flags.
import Dealer.Document

namespace Dealer

/-- A boolean expression. -/
inductive Flag
  | const (b : Bool)
  | param (name : String)
  | and (parts : List Flag)
  | or (parts : List Flag)
  | not (part : Flag)
  deriving Inhabited

namespace Flag

mutual

/-- The flag that a document describes. A connection is an object with one key. -/
def ofDocument? : Document → Option Flag
  | .bool b => some (.const b)
  | .text name => some (.param name)
  | .object [("and", .list parts)] => .and <$> ofDocuments? parts
  | .object [("or", .list parts)] => .or <$> ofDocuments? parts
  | .object [("not", part)] => .not <$> ofDocument? part
  | _ => none

def ofDocuments? : List Document → Option (List Flag)
  | [] => some []
  | d :: ds => do return (← ofDocument? d) :: (← ofDocuments? ds)

end

mutual

/-- The document that describes a flag. -/
def toDocument : Flag → Document
  | .const b => .bool b
  | .param name => .text name
  | .and parts => .object [("and", .list (toDocuments parts))]
  | .or parts => .object [("or", .list (toDocuments parts))]
  | .not part => .object [("not", toDocument part)]

def toDocuments : List Flag → List Document
  | [] => []
  | f :: fs => toDocument f :: toDocuments fs

end

end Flag
end Dealer
