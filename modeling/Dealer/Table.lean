-- The table: who takes part in a game, and who moderates it.
import Dealer.Distinct
import Dealer.Shape

namespace Dealer

/-- Those who sit at a table. -/
structure Table where
  participants : List String
  moderator : Option String := none
  deriving DecidableEq, Repr

namespace Table

/-- Those who are dealt to: every participant once, in the order of their first places, without the
moderator. -/
def members (table : Table) : List String :=
  distinct (table.participants.filter fun p => table.moderator ≠ some p)

/-- The fields of a table, of which the participants must be there. -/
def filling : Filling (Option (List String) × Option String) :=
  [("participants", fun t d => do return (some (← d.list? Document.text?), t.2)),
   ("moderator", fun t d => do return (t.1, ← d.orNull Document.text?))]

/-- The table that a document describes. -/
def ofDocument (d : Document) : Except ShapeError Table :=
  match d with
  | .list [] => .error (.tooShort 0 .table 2)
  | d => do
    let (participants, moderator) ← filling.ofDocument .table (none, none) d
    return ⟨← require "participants" participants, moderator⟩

end Table
end Dealer
