-- What an expression mentions. Every name in it refers to a parameter in one kind:
-- as a count it is a number, in a condition a flag and in a deck a deck. A name is
-- normalised where it is resolved, so its words count only.
import Dealer.Eval.Error
import Dealer.Expr.Deck
import Dealer.Expr.Matcher
import Dealer.Text.Label

namespace Dealer

/-- A name, with the kind in which it is resolved. -/
structure Reference where
  kind : Kind
  name : String
  deriving DecidableEq

/-! ## The references of an expression -/

namespace Quantity

mutual

/-- What a quantity mentions. -/
def references : Quantity → List Reference
  | .number _ => []
  | .param name => [⟨.number, normalize name⟩]
  | .fold _ operands => referencesOfAll operands

def referencesOfAll : List Quantity → List Reference
  | [] => []
  | q :: qs => references q ++ referencesOfAll qs

end

end Quantity

namespace Flag

mutual

/-- What a flag mentions, also in the parts that another part may decide over. -/
def references : Flag → List Reference
  | .const _ => []
  | .param name => [⟨.option, normalize name⟩]
  | .and parts => referencesOfAll parts
  | .or parts => referencesOfAll parts
  | .not part => references part

def referencesOfAll : List Flag → List Reference
  | [] => []
  | f :: fs => references f ++ referencesOfAll fs

end

end Flag

namespace LabelSet

mutual

/-- What a set mentions. Each of its labels may name a deck. -/
def references : LabelSet → List Reference
  | .label s => [⟨.deck, normalize s⟩]
  | .list parts => referencesOfAll parts
  | .fold _ parts => referencesOfAll parts

def referencesOfAll : List LabelSet → List Reference
  | [] => []
  | s :: ss => references s ++ referencesOfAll ss

end

end LabelSet

namespace Matcher

mutual

/-- What a matcher mentions. The text of a test is compared with and names nothing. -/
def references : Matcher → List Reference
  | .text s => [⟨.deck, normalize s⟩]
  | .any parts => referencesOfAll parts
  | .test .. => []
  | .pattern _ => []
  | .all _ => []
  | .not part => references part
  | .set _ parts => LabelSet.referencesOfAll parts

def referencesOfAll : List Matcher → List Reference
  | [] => []
  | m :: ms => references m ++ referencesOfAll ms

end

end Matcher

namespace Deck

mutual

/-- What a deck mentions, in its counts and its condition as well. -/
def references : Deck → List Reference
  | .label s => [⟨.deck, normalize s⟩]
  | .concat parts => referencesOfAll parts
  | .choose n source => n.references ++ references source
  | .chooseGroups n groups => n.references ++ referencesOfAll groups
  | .draw n source => n.references ++ references source
  | .drawGroups n groups => n.references ++ referencesOfAll groups
  | .duplicate n kinds source =>
    n.references ++ ((kinds.map Quantity.references).getD [] ++ references source)
  | .first n source => n.references ++ references source
  | .last n source => n.references ++ references source
  | .cross left right _ => references left ++ references right
  | .zip left right _ => references left ++ references right
  | .cond test yes no => test.references ++ (references yes ++ referencesOr no)
  | .set _ parts => LabelSet.referencesOfAll parts

def referencesOfAll : List Deck → List Reference
  | [] => []
  | d :: ds => references d ++ referencesOfAll ds

def referencesOr : Option Deck → List Reference
  | none => []
  | some d => references d

end

/-- What one of some decks mentions, they mention. -/
theorem references_subset_of_mem {d : Deck} {ds : List Deck} (hd : d ∈ ds) :
    d.references ⊆ referencesOfAll ds := by
  induction ds with
  | nil => cases hd
  | cons first ds ih =>
    rw [referencesOfAll]
    rcases List.mem_cons.mp hd with rfl | hd
    · exact List.subset_append_left _ _
    · exact List.subset_append_of_subset_right _ (ih hd)

end Deck

/-- What the expression of a document mentions, when the document is read in some kind. -/
def Document.references (d : Document) : Kind → List Reference
  | .number => ((Quantity.ofDocument? d).map Quantity.references).getD []
  | .option => ((Flag.ofDocument? d).map Flag.references).getD []
  | .deck => ((Deck.ofDocument? d).map Deck.references).getD []

end Dealer
