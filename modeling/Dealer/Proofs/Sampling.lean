-- Sampling without replacement. Whichever way the places are chosen, a sample has one
-- item from each of them. So it is a part of what it is taken from, with nothing in it
-- more often than there, and a sample from all places is the whole in another order.
import Dealer.Proofs.Meaning
import Mathlib.Data.List.Perm.Subperm

namespace Dealer

namespace Generator

variable {α : Type} {items sample : List α} {places : List Nat}

/-! ## What is taken from different places -/

/-- All items, place by place. -/
theorem map_getElem?_range (items : List α) :
    (List.range items.length).map (items[·]?) = items.map some := by
  apply List.ext_getElem
  · simp
  · intro i hi hi'
    rw [List.getElem_map, List.getElem_map, List.getElem_range]
    exact List.getElem?_eq_getElem _

/-- Different places are some of all places, so what stands at them is some of what there is. -/
theorem Places.subperm (h : Places items.length places)
    (heach : sample.map some = places.map (items[·]?)) : sample.Subperm items := by
  have within : places.Subperm (List.range items.length) :=
    h.nodup.subperm fun i hi => List.mem_range.mpr (h.below i hi)
  obtain ⟨others, hperm, hsub⟩ := within
  have perm := hperm.map (items[·]?)
  have sub := hsub.map (items[·]?)
  rw [← heach] at perm
  rw [map_getElem?_range] at sub
  -- Both lists have an item at every place, and it is taken out again.
  refine ⟨(others.map (items[·]?)).filterMap id, ?_, ?_⟩
  · simpa using perm.filterMap id
  · simpa using sub.filterMap id

/-- A sample of a list has one item from each of some places. -/
structure SampleAt (items : List α) (places : List Nat) (sample : List α) : Prop where
  /-- The places are different, and all of them are there. -/
  different : Places items.length places
  each : sample.map some = places.map (items[·]?)
  size : sample.length = places.length
  /-- Nothing is in the sample more often than in the list. -/
  part : sample.Subperm items
  /-- Where no place is left out, nothing is. -/
  whole : places.length = items.length → sample.Perm items

theorem itemsAt_sampleAt (h : Places items.length places) :
    SampleAt items places (itemsAt items places) := by
  have each := map_some_itemsAt h
  have size : (itemsAt items places).length = places.length := by
    simpa using congrArg List.length each
  have part := h.subperm each
  refine ⟨h, each, size, part, fun hall => ?_⟩
  exact part.perm_of_length_le (Nat.le_of_eq (size.trans hall).symm)

end Generator

open Generator

/-- Sampling without replacement is exact. The places that are chosen are different, are there and
are as many as were asked for, or all, whatever the generator draws. A choice of an exact number
fails where there are too few cards, and then nothing is drawn; else it is the sample at so many
places. A choice of a number at most is the sample at so many places, or at all, and never fails. -/
theorem a_sample_has_one_item_from_each_of_its_places :
    (∀ (len amount : Nat) (g : Generator), Generator.Places len (choosePlaces len amount g).1 ∧
      (choosePlaces len amount g).1.length = min amount len) ∧
    (∀ (what : Counted) (source : List String) (n : Nat) (run : Run),
      if source.length < n then
        chooseExactly what source n run = .error (.tooFew what n source.length) run
      else
        let drawn := choosePlaces source.length n run.generator
        ∃ cards, chooseExactly what source n run = .ok cards { run with generator := drawn.2 } ∧
          drawn.1.length = n ∧ SampleAt source drawn.1 cards) ∧
    ∀ (α : Type) (source : List α) (n : Nat) (run : Run),
      let drawn := choosePlaces source.length n run.generator
      ∃ chosen, chooseUpTo source n run = .ok chosen { run with generator := drawn.2 } ∧
        drawn.1.length = min n source.length ∧ SampleAt source drawn.1 chosen := by
  refine ⟨choosePlaces_places, fun what source n run => ?_, fun α source n run => ?_⟩
  · split
    · rename_i hfew
      rw [chooseExactly, if_pos hfew]
      rfl
    · rename_i henough
      obtain ⟨hplaces, hlength⟩ := choosePlaces_places source.length n run.generator
      rw [Nat.min_eq_left (Nat.le_of_not_lt henough)] at hlength
      refine ⟨_, ?_, hlength, itemsAt_sampleAt hplaces⟩
      rw [chooseExactly, if_neg henough]
      rfl
  · obtain ⟨hplaces, hlength⟩ := choosePlaces_places source.length n run.generator
    exact ⟨_, rfl, hlength, itemsAt_sampleAt hplaces⟩

end Dealer
