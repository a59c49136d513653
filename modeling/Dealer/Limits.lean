-- What a message can hold, as whoever delivers it says.
import Dealer.Overflow
import Dealer.Shape

namespace Dealer

/-- The limits of one channel. Sizes are whole numbers of 64 bits. -/
structure Limits where
  /-- The most fragments that a script may import. -/
  maxImports : UInt64 := 5
  /-- The most fields in one embed. -/
  maxFields : UInt64 := 25
  /-- The most embeds in one message. -/
  maxEmbeds : UInt64 := 10
  /-- The longest title, in characters. -/
  maxTitle : UInt64 := 256
  /-- The longest name of a field, in characters. -/
  maxName : UInt64 := 256
  /-- The longest value of a field, in characters. -/
  maxValue : UInt64 := 1024
  /-- The title of a script without an event. -/
  defaultTitle : String := "Script"
  deriving DecidableEq, Repr

namespace Limits

/-- The fields of a record of limits. A missing one keeps its usual value. -/
def filling : Filling Limits :=
  [("max_imports", fun l d => do return { l with maxImports := ← d.size? }),
   ("max_fields", fun l d => do return { l with maxFields := ← d.size? }),
   ("max_embeds", fun l d => do return { l with maxEmbeds := ← d.size? }),
   ("max_title_len", fun l d => do return { l with maxTitle := ← d.size? }),
   ("max_field_name_len", fun l d => do return { l with maxName := ← d.size? }),
   ("max_field_value_len", fun l d => do return { l with maxValue := ← d.size? }),
   ("default_title", fun l d => do return { l with defaultTitle := ← d.text? })]

/-- The limits that a document describes. -/
def ofDocument (d : Document) : Except ShapeError Limits := filling.ofDocument .limits {} d

/-- The most fields in one embed, and one at least. -/
def fieldsPerEmbed (limits : Limits) : UInt64 := max limits.maxFields 1

/-- The most fields in one message. -/
def capacity (limits : Limits) : Except Overflow Nat :=
  Overflow.multiply limits.fieldsPerEmbed.toNat (max limits.maxEmbeds 1).toNat

end Limits
end Dealer
