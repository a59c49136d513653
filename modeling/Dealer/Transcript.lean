-- What the members are told: fields for everybody, and fields for one member
-- alone.
import Dealer.ByName

namespace Dealer

/-- A named value. -/
structure Field where
  name : String
  value : String
  /-- Whether it may stand beside others on one line. -/
  inline : Bool := false
  deriving DecidableEq, Repr

/-- A field on one line of text. -/
def Field.line (f : Field) : String := f.name ++ ": " ++ f.value

/-- The fields of a game. -/
structure Transcript where
  /-- The fields that everybody sees. -/
  channel : List Field := []
  /-- The fields that one person sees. -/
  direct : ByName (List Field) := []
  deriving DecidableEq, Repr

namespace Transcript

/-- Whether nobody is told anything. -/
def isEmpty (t : Transcript) : Bool := t.channel.isEmpty && t.direct.all fun e => e.2.isEmpty

/-- Tells everybody. -/
def tell (t : Transcript) (fields : List Field) : Transcript :=
  { t with channel := t.channel ++ fields }

/-- Tells one person. Nobody is told nothing. -/
def send (t : Transcript) (person : String) (fields : List Field) : Transcript :=
  if fields = [] then t else { t with direct := ByName.append person fields t.direct }

end Transcript
end Dealer
