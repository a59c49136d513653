-- Output for delivery: fields are gathered into embeds, as many as the limits
-- allow, and texts that are too long are cut.
import Dealer.Limits
import Dealer.Transcript

namespace Dealer

/-- A titled group of fields. -/
structure Embed where
  title : String
  fields : List Field
  deriving DecidableEq, Repr

/-- What a game gives out: embeds for everybody, and embeds for one person. -/
structure Output where
  channel : List Embed
  direct : ByName (List Embed)
  deriving DecidableEq, Repr

namespace Output

/-- The embeds for one person. -/
def forPerson (o : Output) (person : String) : List Embed := (o.direct.get? person).getD []

/-- The fields of some embeds, one after the other. -/
def fieldsOf (embeds : List Embed) : List Field := embeds.flatMap Embed.fields

/-- Whether nobody is given anything. -/
def isEmpty (o : Output) : Bool := o.channel.isEmpty && o.direct.isEmpty

/-- What an output amounts to. -/
def summary (o : Output) : String :=
  "Output(" ++ toString o.channel.length ++ " channel embeds, " ++ toString o.direct.length
    ++ " recipients)"

end Output

/-- The name of the field that stands for those that did not fit. -/
def overflowName : String := "Too many to show"

/-- The field that says how many are hidden. -/
def overflowNotice (hidden : Nat) : Field :=
  ⟨overflowName, "…and " ++ toString hidden ++ " more", false⟩

/-- Cuts a text to so many characters. The last of them is an ellipsis when something was cut. -/
def truncate (s : String) (longest : Nat) : String :=
  let cs := s.toList
  if cs.length ≤ longest then s
  else if longest = 0 then ""
  else String.ofList (cs.take (longest - 1) ++ ['…'])

/-- Cuts a list into pieces of `n` items. The last piece may be shorter. -/
def pieces {α : Type} (n : Nat) (items : List α) : List (List α) :=
  if _h : n = 0 ∨ items = [] then []
  else items.take n :: pieces n (items.drop n)
termination_by items.length
decreasing_by
  have : items.length ≠ 0 := by simp_all
  rw [List.length_drop]
  omega

namespace Limits

/-- The fields that fit. When there are more, the last place goes to a notice that counts those that
are hidden. -/
def fitting (limits : Limits) (fields : List Field) : Except Overflow (List Field) := do
  let capacity ← limits.capacity
  if capacity < fields.length then
    let shown ← Overflow.subtract capacity 1
    let hidden ← Overflow.subtract fields.length shown
    return fields.take shown ++ [overflowNotice hidden]
  else return fields

/-- A field with its texts cut. -/
def cutField (limits : Limits) (f : Field) : Field :=
  { f with
    name := truncate f.name limits.maxName.toNat
    value := truncate f.value limits.maxValue.toNat }

/-- Lays out fields in embeds, all under one title. -/
def layOut (limits : Limits) (title : String) (fields : List Field) : List Embed :=
  let title := truncate title limits.maxTitle.toNat
  (pieces limits.fieldsPerEmbed.toNat fields).map fun piece =>
    ⟨title, piece.map limits.cutField⟩

/-- The embeds for some fields, as far as they fit. -/
def paginate (limits : Limits) (title : String) (fields : List Field) :
    Except Overflow (List Embed) := do
  return limits.layOut title (← limits.fitting fields)

end Limits
end Dealer
