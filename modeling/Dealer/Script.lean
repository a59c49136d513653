-- Scripts: what is asked of the members, the parameters and the rules.
import Dealer.Document.SyntaxError
import Dealer.Rule
import Dealer.Setup

namespace Dealer

/-- A script. -/
structure Script where
  /-- What is played. -/
  event : Option String := none
  requireModerator : Option Flag := none
  minMembers : Option Quantity := none
  maxMembers : Option Quantity := none
  rules : List Rule := []
  /-- The addresses of fragments to merge into the script. -/
  imports : List String := []
  setup : Setup := .empty

namespace Script

/-- The fields of a script. Each may be missing. -/
def filling : Filling Script :=
  [("event", fun s d => do return { s with event := ← d.orNull Document.text? }),
   ("requireModerator", fun s d => do return { s with requireModerator := ← d.orNull Rule.flag }),
   ("minMembers", fun s d => do return { s with minMembers := ← d.orNull Rule.quantity }),
   ("maxMembers", fun s d => do return { s with maxMembers := ← d.orNull Rule.quantity }),
   ("rules", fun s d => do return { s with rules := ← d.list? Rule.ofDocument }),
   ("import", fun s d => do return { s with imports := ← d.list? Document.text? }),
   ("setup", fun s d => do return { s with setup := ← Setup.ofDocument d })]

/-- The script that a document describes. -/
def ofDocument (d : Document) : Except ShapeError Script := filling.ofDocument .script {} d

end Script

/-- Why a text is no script. -/
inductive ParseError
  | unreadable (error : SyntaxError)
  | misshapen (error : ShapeError)

/-- The message for a text that is no script. -/
def ParseError.message : ParseError → String
  | .unreadable error => "invalid script: " ++ error.message
  | .misshapen error => "invalid script: " ++ error.message

/-- Reads a script text. -/
def Script.read (text : String) : Except (Halt ParseError) Script := do
  let d ← (Document.read text).mapError (Halt.map .unreadable)
  (Script.ofDocument d).mapError fun e => .failed (.misshapen e)

end Dealer
