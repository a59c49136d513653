-- Who may play: a script may ask for a moderator, and for so many members at
-- least and at most.
import Dealer.Eval.Flag
import Dealer.Eval.Quantity
import Dealer.Script
import Dealer.Table

namespace Dealer

/-- Why a table may not play. -/
inductive MembershipError
  | tooFew (count least : Nat)
  | tooMany (count most : Nat)
  | moderatorRequired
  deriving DecidableEq, Repr

/-- The message for a table that may not play. -/
def MembershipError.message : MembershipError → String
  | .tooFew count least =>
    "this script needs at least " ++ toString least ++ " participants, but " ++ toString count
      ++ " are eligible"
  | .tooMany count most =>
    "this script allows at most " ++ toString most ++ " participants, but " ++ toString count
      ++ " are eligible"
  | .moderatorRequired => "this script requires a moderator"

/-- What an admission finds: the members, or why there are none. -/
abbrev Admitted := Except MembershipError (List String)

namespace Script

/-- Whether a script asks for a moderator. -/
def moderated (script : Script) : Eval Memo Bool :=
  Flag.evalOr (flagOf script.setup []) false script.requireModerator

/-- A bound on the number of members, if there is one. -/
def bound (script : Script) (what : Counted) : Option Quantity → Eval Memo (Option Nat)
  | none => pure none
  | some q => some <$> q.count (numberOf script.setup []) what

/-- Checks a table: the moderator first, then the least number of members, then the most. A bound
that is not reached is not resolved. -/
def admitted (script : Script) (table : Table) : Eval Memo Admitted := do
  let members := table.members
  let count := members.length
  let moderated ← script.moderated
  if moderated && table.moderator.isNone then return .error .moderatorRequired
  let least ← script.bound .minMembers script.minMembers
  if let some n := least then
    if count < n then return .error (.tooFew count n)
  let most ← script.bound .maxMembers script.maxMembers
  if let some n := most then
    if n < count then return .error (.tooMany count n)
  return .ok members

end Script
end Dealer
