-- How deep the evaluation of an expression can go. Every call of an evaluator
-- inside another counts one, and so does the look-up of a parameter. What a
-- parameter costs beyond that is counted with the setup, once for each entry.
import Dealer.Proofs.Answers

namespace Dealer

/-! ## The depth of an expression -/

/-- In a list whose depth is that of its deepest item, no item is deeper. -/
theorem le_of_deepest {α : Type} {depth : α → Nat} {depthAll : List α → Nat}
    (hcons : ∀ a as, depthAll (a :: as) = max (depth a) (depthAll as)) {a : α} {as : List α}
    (h : a ∈ as) : depth a ≤ depthAll as := by
  induction as with
  | nil => cases h
  | cons b bs ih =>
    rw [hcons]
    rcases List.mem_cons.mp h with h | h
    · rw [h]
      exact Nat.le_max_left _ _
    · exact Nat.le_trans (ih h) (Nat.le_max_right _ _)

namespace Quantity

mutual

/-- How deep calls go for a quantity. -/
def depth : Quantity → Nat
  | .number _ => 1
  | .param _ => 2
  | .fold _ operands => 1 + depthAll operands

/-- How deep calls go for the deepest of some quantities. -/
def depthAll : List Quantity → Nat
  | [] => 0
  | q :: qs => max (depth q) (depthAll qs)

end

theorem depth_le_depthAll {q : Quantity} {qs : List Quantity} (h : q ∈ qs) :
    q.depth ≤ depthAll qs :=
  le_of_deepest (fun _ _ => by rw [depthAll]) h

end Quantity

namespace Flag

mutual

/-- How deep calls go for a flag. -/
def depth : Flag → Nat
  | .const _ => 1
  | .param _ => 2
  | .and parts => 1 + depthAll parts
  | .or parts => 1 + depthAll parts
  | .not part => 1 + depth part

/-- How deep calls go for the deepest of some flags. -/
def depthAll : List Flag → Nat
  | [] => 0
  | f :: fs => max (depth f) (depthAll fs)

end

theorem depth_le_depthAll {f : Flag} {fs : List Flag} (h : f ∈ fs) : f.depth ≤ depthAll fs :=
  le_of_deepest (fun _ _ => by rw [depthAll]) h

end Flag

namespace LabelSet

mutual

/-- How deep calls go for a set. An operation is a call of its own. -/
def depth : LabelSet → Nat
  | .label _ => 2
  | .list parts => 1 + depthAll parts
  | .fold _ parts => 2 + depthAll parts

/-- How deep calls go for the deepest of some sets. -/
def depthAll : List LabelSet → Nat
  | [] => 0
  | s :: ss => max (depth s) (depthAll ss)

end

theorem depth_le_depthAll {s : LabelSet} {ss : List LabelSet} (h : s ∈ ss) :
    s.depth ≤ depthAll ss :=
  le_of_deepest (fun _ _ => by rw [depthAll]) h

end LabelSet

namespace Deck

mutual

/-- How deep calls go for a deck. -/
def depth : Deck → Nat
  | .label _ => 2
  | .concat parts => 1 + depthAll parts
  | .choose n source => 1 + max n.depth (depth source)
  | .chooseGroups n groups => 1 + max n.depth (depthAll groups)
  | .draw n source => 1 + max n.depth (depth source)
  | .drawGroups n groups => 1 + max n.depth (depthAll groups)
  | .duplicate n kinds source =>
    1 + max (max n.depth (kinds.elim 0 Quantity.depth)) (depth source)
  | .first n source => 1 + max n.depth (depth source)
  | .last n source => 1 + max n.depth (depth source)
  | .cross left right _ => 1 + max (depth left) (depth right)
  | .zip left right _ => 1 + max (depth left) (depth right)
  | .cond test yes no => 1 + max test.depth (max (depth yes) (depthOr no))
  | .set _ parts => 2 + LabelSet.depthAll parts

/-- How deep calls go for the deepest of some decks. -/
def depthAll : List Deck → Nat
  | [] => 0
  | d :: ds => max (depth d) (depthAll ds)

/-- How deep calls go for a deck that may be absent. -/
def depthOr : Option Deck → Nat
  | none => 0
  | some d => depth d

end

theorem depth_le_depthAll {d : Deck} {ds : List Deck} (h : d ∈ ds) : d.depth ≤ depthAll ds :=
  le_of_deepest (fun _ _ => by rw [depthAll]) h

end Deck

namespace Matcher

mutual

/-- How deep calls go for a matcher. -/
def depth : Matcher → Nat
  | .text _ => 2
  | .any parts => 1 + depthAll parts
  | .test .. => 1
  | .pattern _ => 1
  | .all _ => 1
  | .not part => 1 + depth part
  | .set _ parts => 2 + LabelSet.depthAll parts

/-- How deep calls go for the deepest of some matchers. -/
def depthAll : List Matcher → Nat
  | [] => 0
  | m :: ms => max (depth m) (depthAll ms)

end

theorem depth_le_depthAll {m : Matcher} {ms : List Matcher} (h : m ∈ ms) :
    m.depth ≤ depthAll ms :=
  le_of_deepest (fun _ _ => by rw [depthAll]) h

end Matcher

end Dealer
