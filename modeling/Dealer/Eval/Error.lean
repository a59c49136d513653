-- Why an expression has no value.
import Dealer.Decimal.Layout

namespace Dealer

/-- What an expression is resolved to. -/
inductive Kind
  | number
  | option
  | deck
  deriving DecidableEq, Repr

/-- The name of a kind of values. -/
def Kind.text : Kind → String
  | .number => "number"
  | .option => "option"
  | .deck => "deck"

/-- What a number counts. -/
inductive Counted
  | items
  | groups
  | choose
  | draw
  | duplicate
  | kinds
  | first
  | last
  | limit
  | minMembers
  | maxMembers
  | deck
  | cross
  deriving DecidableEq, Repr

/-- What a message calls a thing that is counted. -/
def Counted.text : Counted → String
  | .items => "items"
  | .groups => "groups"
  | .choose => "choose"
  | .draw => "repeat"
  | .duplicate => "duplicate"
  | .kinds => "of"
  | .first => "first"
  | .last => "last"
  | .limit => "limit"
  | .minMembers => "minMembers"
  | .maxMembers => "maxMembers"
  | .deck => "deck"
  | .cross => "cross product"

/-- The largest count that anything may have. -/
def maxCount : Nat := 10000

/-- Why an expression cannot be resolved. -/
inductive EvalError
  /-- No parameter has the name. -/
  | undefined (name : String)
  /-- The names on the way back to the first of them. -/
  | recursive (path : List String)
  | wrongKind (name : String) (expected : Kind)
  | notACount (what : Counted) (value : Float)
  | notFinite (what : Counted)
  | tooFew (what : Counted) (requested available : Nat)
  | tooLarge (what : Counted) (value : Float)
  | emptySource (what : Counted)
  /-- An operation without operands. -/
  | noOperands (op : String)
  | zeroLimit
  | invalidPattern (source : String)
  deriving DecidableEq

/-- The message for an expression that cannot be resolved. What is wrong with a pattern is told by
`fault`. -/
def EvalError.message (fault : String → String) : EvalError → String
  | .undefined name => "undefined reference '" ++ name ++ "'"
  | .recursive path => "recursive definition: " ++ " -> ".intercalate path
  | .wrongKind name expected =>
    "setup parameter '" ++ name ++ "' is not a valid " ++ expected.text
  | .notACount what value =>
    what.text ++ " must be a whole number of zero or more, got " ++ NumberLayout.plain.write value
  | .notFinite what => what.text ++ " is not a finite number"
  | .tooFew what requested available =>
    "cannot take " ++ toString requested ++ " " ++ what.text ++ " from a deck of "
      ++ toString available
  | .tooLarge what value =>
    what.text ++ " of " ++ NumberLayout.plain.write value ++ " is larger than the maximum of "
      ++ toString maxCount
  | .emptySource what => "cannot " ++ what.text ++ " from an empty deck"
  | .noOperands op => "'" ++ op ++ "' needs at least one operand"
  | .zeroLimit => "limit must be at least 1"
  | .invalidPattern source => "invalid pattern '" ++ source ++ "': " ++ fault source

end Dealer
