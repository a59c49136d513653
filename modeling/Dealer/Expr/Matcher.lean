-- Matchers: which labels a rule speaks of.
import Dealer.Expr.LabelSet
import Dealer.Pattern

namespace Dealer

/-- A comparison of a label with a given text. -/
inductive LabelTest
  | is
  | isNot
  | startsWith
  | startsWithout
  | endsWith
  | endsWithout
  | includes
  | excludes
  deriving DecidableEq, Repr

namespace LabelTest

/-- The key of the test in a document. -/
def key : LabelTest → String
  | .is => "is"
  | .isNot => "isNot"
  | .startsWith => "startsWith"
  | .startsWithout => "startsWithout"
  | .endsWith => "endsWith"
  | .endsWithout => "endsWithout"
  | .includes => "includes"
  | .excludes => "excludes"

/-- The test with this key. -/
def ofKey? (key : String) : Option LabelTest :=
  [is, isNot, startsWith, startsWithout, endsWith, endsWithout, includes, excludes].find?
    fun t => t.key = key

end LabelTest

/-- An expression that accepts some labels and refuses the others. -/
inductive Matcher
  /-- The labels of a parameter's deck, or those that include the text where no parameter
  has the name. -/
  | text (s : String)
  /-- The labels that one of the parts accepts. -/
  | any (parts : List Matcher)
  | test (t : LabelTest) (s : String)
  /-- The labels in which a pattern is found. -/
  | pattern (p : PatternText)
  /-- Every label, whatever the document says. -/
  | all (note : Document)
  | not (part : Matcher)
  /-- The labels of a set. -/
  | set (op : SetOp) (parts : List LabelSet)
  deriving Inhabited

namespace Matcher

/-- The matcher that accepts every label. -/
def everything : Matcher := .all (.bool true)

/-- What an announcement is made for: each part of a list, or the matcher itself. -/
def targets : Matcher → List Matcher
  | .any parts => parts
  | m => [m]

mutual

/-- The matcher that a document describes. A test is an object with one key. -/
def ofDocument? : Document → Option Matcher
  | .text s => some (.text s)
  | .list parts => .any <$> ofDocuments? parts
  | .object [("not", part)] => .not <$> ofDocument? part
  | .object [("all", note)] => some (.all note)
  | .object [("matches", .text source)] => some (.pattern (.ofText source))
  | .object [(key, .text s)] => (LabelTest.ofKey? key).map fun t => .test t s
  | .object [(key, .list parts)] => do
    let (op, parts) ← LabelSet.operation? (.object [(key, .list parts)])
    return .set op parts
  | _ => none

def ofDocuments? : List Document → Option (List Matcher)
  | [] => some []
  | d :: ds => do return (← ofDocument? d) :: (← ofDocuments? ds)

end

mutual

/-- The document that describes a matcher. -/
def toDocument : Matcher → Document
  | .text s => .text s
  | .any parts => .list (toDocuments parts)
  | .test t s => .object [(t.key, .text s)]
  | .pattern p => .object [("matches", .text p.text)]
  | .all note => .object [("all", note)]
  | .not part => .object [("not", toDocument part)]
  | .set op parts => .object [(op.key, .list (LabelSet.toDocuments parts))]

def toDocuments : List Matcher → List Document
  | [] => []
  | m :: ms => toDocument m :: toDocuments ms

end

end Matcher
end Dealer
