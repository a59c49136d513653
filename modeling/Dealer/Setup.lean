-- The setup of a script: named parameters that its expressions refer to. What a
-- parameter means depends on where its name stands, so the setup keeps
-- documents. Names are labels: only their words count.
import Dealer.Shape
import Dealer.Text.Label

namespace Dealer

/-- Documents under normalised names. -/
structure Setup where
  entries : ByName Document
  deriving Inhabited

namespace Setup

/-- The setup without parameters. -/
def empty : Setup := ⟨[]⟩

/-- Writes a parameter. -/
def insert (setup : Setup) (name : String) (d : Document) : Setup :=
  ⟨setup.entries.put (normalize name) d⟩

/-- The parameter that is stored under exactly this name. -/
def get? (setup : Setup) (name : String) : Option Document := setup.entries.get? name

/-- Whether a parameter is stored under exactly this name. -/
def contains (setup : Setup) (name : String) : Bool := setup.entries.has name

/-- The names of the parameters. -/
def names (setup : Setup) : List String := setup.entries.names

/-- The number of parameters. -/
def size (setup : Setup) : Nat := setup.entries.length

/-- Writes every parameter of another setup. -/
def overlay (setup other : Setup) : Setup := ⟨setup.entries.putAll other.entries⟩

/-- The setup of an object. Of two keys with the same words the later counts, in the order of the
keys. -/
def ofMembers (members : List (String × Document)) : Setup :=
  members.foldl (fun setup e => setup.insert e.1 e.2) empty

/-- The setup that a document describes. -/
def ofDocument : Document → Except ShapeError Setup
  | .object members => .ok (ofMembers members)
  | d => .error (.wrongType d .object)

end Setup
end Dealer
