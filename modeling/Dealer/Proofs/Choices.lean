-- What the generator can and cannot do when it shuffles and chooses. Whatever it
-- draws, a shuffle loses and adds nothing, and a choice is of different places,
-- as many as were asked for. All three ways of choosing come to this.
import Dealer.Generator.Sample
import Mathlib.Data.List.Perm.Subperm

namespace Dealer.Generator

variable {α : Type}

/-! ## Shuffles -/

theorem swapIfInBounds_perm (items : Array α) (i j : Nat) :
    (items.swapIfInBounds i j).toList.Perm items.toList := by
  unfold Array.swapIfInBounds
  split
  · split
    · exact (Array.swap_perm _ _).toList
    · exact List.Perm.refl _
  · exact List.Perm.refl _

theorem shuffleDown_perm (i : Nat) (items : Array α) (g : Generator) :
    (shuffleDown i items g).1.toList.Perm items.toList := by
  induction i generalizing items g with
  | zero => exact List.Perm.refl _
  | succ i ih =>
    unfold shuffleDown
    obtain ⟨j, g'⟩ := g.below .w32 (i + 2)
    exact (ih _ _).trans (swapIfInBounds_perm _ _ _)

/-- A shuffle puts the same items in another order. -/
theorem shuffle_perm (items : List α) (g : Generator) : (shuffle items g).1.Perm items :=
  shuffleDown_perm _ _ _

/-! ## Different places -/

/-- Different places in a list of so many items. -/
structure Places (len : Nat) (places : List Nat) : Prop where
  nodup : places.Nodup
  below : ∀ i ∈ places, i < len

namespace Places

variable {len : Nat} {places others : List Nat}

theorem nil (len : Nat) : Places len [] := ⟨List.nodup_nil, fun _ h => by cases h⟩

theorem perm (h : Places len places) (hp : others.Perm places) : Places len others :=
  ⟨hp.nodup_iff.mpr h.nodup, fun i hi => h.below i (hp.mem_iff.mp hi)⟩

theorem cons {i : Nat} (h : Places len places) (hi : i < len) (hnew : i ∉ places) :
    Places len (i :: places) := by
  refine ⟨List.nodup_cons.mpr ⟨hnew, h.nodup⟩, fun j hj => ?_⟩
  rcases List.mem_cons.mp hj with rfl | hj
  · exact hi
  · exact h.below j hj

/-- Longer lists have the places of shorter ones. -/
theorem weaken {more : Nat} (h : Places len places) (hle : len ≤ more) : Places more places :=
  ⟨h.nodup, fun i hi => Nat.lt_of_lt_of_le (h.below i hi) hle⟩

/-- Where fewer places are taken than there are, one is free. -/
theorem exists_free (h : places.length < len) : ∃ i, i < len ∧ i ∉ places := by
  by_cases hfree : ∃ i, i < len ∧ i ∉ places
  · exact hfree
  · have all : List.range len ⊆ places := by
      intro i hi
      by_cases hmem : i ∈ places
      · exact hmem
      · exact absurd ⟨i, List.mem_range.mp hi, hmem⟩ hfree
    have := List.nodup_range.length_le_of_subset all
    rw [List.length_range] at this
    omega

end Places

/-! ## The three ways -/

theorem chooseInPlace_perm (len amount i : Nat) (places : Array Nat) (g : Generator) :
    (chooseInPlace len amount i places g).1.toList.Perm places.toList := by
  induction amount generalizing i places g with
  | zero => exact List.Perm.refl _
  | succ amount ih =>
    unfold chooseInPlace
    obtain ⟨j, g'⟩ := g.below .w32 (len - i)
    exact (ih _ _ _).trans (swapIfInBounds_perm _ _ _)

/-- Places that are swapped stay all places, and the first of them are different. -/
theorem chooseInPlace_places {len amount : Nat} (h : amount ≤ len) (g : Generator) :
    Places len ((chooseInPlace len amount 0 (Array.range len) g).1.toList.take amount) ∧
      ((chooseInPlace len amount 0 (Array.range len) g).1.toList.take amount).length = amount := by
  have perm := chooseInPlace_perm len amount 0 (Array.range len) g
  rw [Array.toList_range] at perm
  have all : Places len (List.range len) := ⟨List.nodup_range, fun i hi => List.mem_range.mp hi⟩
  have placed := all.perm perm
  refine ⟨⟨placed.nodup.sublist (List.take_sublist _ _), fun i hi => ?_⟩, ?_⟩
  · exact placed.below i (List.mem_of_mem_take hi)
  · rw [List.length_take, perm.length_eq, List.length_range]
    exact Nat.min_eq_left h

theorem insertBefore_perm {new old : Nat} {places : List Nat} (h : old ∈ places) :
    (insertBefore new old places).Perm (new :: places) := by
  induction places with
  | nil => cases h
  | cons p ps ih =>
    unfold insertBefore
    split
    · exact List.Perm.refl _
    · rename_i hp
      rcases List.mem_cons.mp h with h | h
      · exact absurd h.symm hp
      · exact ((ih h).cons p).trans (List.Perm.swap new p ps)

/-- One step of the choice by rank. A place up to `k` joins different places below `k`. -/
theorem rankStep_places (ordered : Bool) {k t : Nat} {places : List Nat} (h : Places k places)
    (ht : t < k + 1) :
    ∃ i, i < k + 1 ∧ i ∉ places ∧
      (if t ∈ places then if ordered then insertBefore k t places else places ++ [k]
        else places ++ [t]).Perm (i :: places) := by
  by_cases hmem : t ∈ places
  · -- The place drawn is taken, and `k` itself cannot be.
    have hk : k ∉ places := fun hk => Nat.lt_irrefl k (h.below k hk)
    refine ⟨k, Nat.lt_succ_self k, hk, ?_⟩
    rw [if_pos hmem]
    split
    · exact insertBefore_perm hmem
    · exact List.perm_append_singleton k places
  · refine ⟨t, ht, hmem, ?_⟩
    rw [if_neg hmem]
    exact List.perm_append_singleton t places

theorem chooseByRank_places (ordered : Bool) (amount k : Nat) {places : List Nat}
    (h : Places k places) (g : Generator) :
    Places (k + amount) (chooseByRank ordered amount k places g).1 ∧
      (chooseByRank ordered amount k places g).1.length = places.length + amount := by
  induction amount generalizing k places g with
  | zero => exact ⟨h, rfl⟩
  | succ amount ih =>
    have ht := below_lt .w32 (Nat.succ_pos k) g
    obtain ⟨i, hi, hnew, perm⟩ := rankStep_places ordered h ht
    have next := ((h.weaken (Nat.le_succ k)).cons hi hnew).perm perm
    obtain ⟨hplaces, hlength⟩ := ih (k + 1) next (g.below .w32 (k + 1)).2
    unfold chooseByRank
    refine ⟨?_, ?_⟩
    · rw [Nat.add_comm amount 1, ← Nat.add_assoc]
      exact hplaces
    · rw [hlength, perm.length_eq, List.length_cons]
      omega

/-- A free place is drawn where there is one, by the last resort if need be. -/
theorem drawFree_free (width : Width) {len : Nat} {taken : Std.HashSet Nat}
    (hfree : ∃ i, i < len ∧ i ∉ taken) (tries : Nat) (g : Generator) :
    (drawFree width len taken tries g).1 < len ∧ (drawFree width len taken tries g).1 ∉ taken := by
  obtain ⟨free, hlt, hnew⟩ := hfree
  induction tries generalizing g with
  | zero =>
    unfold drawFree
    cases hfind : (List.range len).find? fun i => !taken.contains i with
    | none =>
      have hall := List.find?_eq_none.mp hfind free (List.mem_range.mpr hlt)
      simp only [Bool.not_eq_eq_eq_not, Bool.not_true, Bool.not_eq_false] at hall
      exact absurd (Std.HashSet.mem_iff_contains.mpr hall) hnew
    | some i =>
      refine ⟨List.mem_range.mp (List.mem_of_find?_eq_some hfind), fun (hi : i ∈ taken) => ?_⟩
      have hnot := List.find?_some hfind
      rw [Std.HashSet.mem_iff_contains.mp hi] at hnot
      cases hnot
  | succ tries ih =>
    unfold drawFree
    dsimp only
    split
    · exact ih _
    · rename_i hi
      exact ⟨belowFine_lt width (Nat.zero_lt_of_lt hlt) g,
        fun hmem => hi (Std.HashSet.mem_iff_contains.mp hmem)⟩

theorem chooseByTrial_places (width : Width) {len amount : Nat} {taken : Std.HashSet Nat}
    {before : List Nat} (htaken : ∀ i, i ∈ taken ↔ i ∈ before)
    (hle : before.length + amount ≤ len) (g : Generator) :
    Places len (chooseByTrial width len amount taken g).1 ∧
      (chooseByTrial width len amount taken g).1.length = amount ∧
      ∀ i ∈ (chooseByTrial width len amount taken g).1, i ∉ before := by
  induction amount generalizing taken before g with
  | zero => exact ⟨Places.nil len, rfl, fun _ hi => by cases hi⟩
  | succ amount ih =>
    have hfree : ∃ i, i < len ∧ i ∉ taken := by
      obtain ⟨i, hi, hnew⟩ := Places.exists_free (show before.length < len by omega)
      exact ⟨i, hi, fun hmem => hnew ((htaken i).mp hmem)⟩
    obtain ⟨hi, hnew⟩ := drawFree_free width hfree patience g
    unfold chooseByTrial
    dsimp only
    generalize drawFree width len taken patience g = drawn at hi hnew ⊢
    have hinsert : ∀ i, i ∈ taken.insert drawn.1 ↔ i ∈ drawn.1 :: before := by
      intro i
      rw [Std.HashSet.mem_insert, htaken, List.mem_cons, beq_iff_eq, eq_comm]
    obtain ⟨hplaces, hlength, hothers⟩ := ih hinsert (by rw [List.length_cons]; omega) drawn.2
    refine ⟨hplaces.cons hi fun hmem => hothers _ hmem (List.mem_cons_self ..), ?_, ?_⟩
    · rw [List.length_cons, hlength]
    · intro i hmem hbefore
      rcases List.mem_cons.mp hmem with rfl | hmem
      · exact hnew ((htaken _).mpr hbefore)
      · exact hothers i hmem (List.mem_cons_of_mem _ hbefore)

/-- Whichever way is quickest, the places chosen are different, each is there, and they are as many
as were asked for, or all. -/
theorem choosePlaces_places (len amount : Nat) (g : Generator) :
    Places len (choosePlaces len amount g).1 ∧
      (choosePlaces len amount g).1.length = min amount len := by
  have hle : min amount len ≤ len := Nat.min_le_right _ _
  have trial (width : Width) :
      Places len (chooseByTrial width len (min amount len) ∅ g).1 ∧
        (chooseByTrial width len (min amount len) ∅ g).1.length = min amount len := by
    have none : ∀ i, i ∈ (∅ : Std.HashSet Nat) ↔ i ∈ ([] : List Nat) := by simp
    have room : ([] : List Nat).length + min amount len ≤ len := by
      rw [List.length_nil, Nat.zero_add]
      exact hle
    obtain ⟨hplaces, hlength, _⟩ := chooseByTrial_places width none room g
    exact ⟨hplaces, hlength⟩
  unfold choosePlaces
  dsimp only
  split
  · exact trial .w64
  · split
    · exact chooseInPlace_places hle g
    · have rank := chooseByRank_places (decide (min amount len < 50)) (min amount len)
        (len - min amount len) (Places.nil _) g
      rw [Nat.sub_add_cancel hle, List.length_nil, Nat.zero_add] at rank
      split
      · exact rank
      · have perm := shuffle_perm (chooseByRank (decide (min amount len < 50)) (min amount len)
          (len - min amount len) [] g).1 (chooseByRank (decide (min amount len < 50))
          (min amount len) (len - min amount len) [] g).2
        exact ⟨rank.1.perm perm, perm.length_eq.trans rank.2⟩
    · exact trial .w32

/-! ## Chosen items -/

/-- Items at so many different places of a list. -/
def Chosen (items : List α) (amount : Nat) (chosen : List α) : Prop :=
  ∃ places : List Nat, places.Nodup ∧ places.length = amount ∧
    places.map (items[·]?) = chosen.map some

/-- Places that are there all have an item. -/
theorem map_some_itemsAt {items : List α} {places : List Nat} (h : Places items.length places) :
    (itemsAt items places).map some = places.map (items[·]?) := by
  unfold itemsAt
  simp only [List.getElem?_toArray]
  have below := h.below
  clear h
  induction places with
  | nil => rfl
  | cons i is ih =>
    have hlt := below i (List.mem_cons_self ..)
    have hi : items[i]? = some items[i] := List.getElem?_eq_getElem hlt
    rw [List.filterMap_cons_some hi, List.map_cons, List.map_cons, hi]
    rw [ih fun j hj => below j (List.mem_cons_of_mem _ hj)]

theorem itemsAt_chosen {items : List α} {places : List Nat} (h : Places items.length places) :
    Chosen items places.length (itemsAt items places) :=
  ⟨places, h.nodup, rfl, (map_some_itemsAt h).symm⟩

/-- A sample takes each item from a place of its own, as many as are asked for, or all. -/
theorem sample_chosen (items : List α) (amount : Nat) (g : Generator) :
    Chosen items (min amount items.length) (sample items amount g).1 := by
  obtain ⟨hplaces, hlength⟩ := choosePlaces_places items.length amount g
  have chosen := itemsAt_chosen hplaces
  rwa [hlength] at chosen

namespace Chosen

variable {items chosen : List α} {amount : Nat}

theorem length (h : Chosen items amount chosen) : chosen.length = amount := by
  obtain ⟨places, -, hlength, hitems⟩ := h
  have := congrArg List.length hitems
  rw [List.length_map, List.length_map, hlength] at this
  exact this.symm

theorem length_le (h : Chosen items amount chosen) : chosen.length ≤ items.length := by
  obtain ⟨places, hplaces, -, hitems⟩ := h
  have below : ∀ i ∈ places, i ∈ List.range items.length := by
    intro i hi
    have hmem : items[i]? ∈ chosen.map some := hitems ▸ List.mem_map_of_mem hi
    obtain ⟨item, -, hitem⟩ := List.mem_map.mp hmem
    exact List.mem_range.mpr (List.getElem?_eq_some_iff.mp hitem.symm).1
  have hlength := congrArg List.length hitems
  rw [List.length_map, List.length_map] at hlength
  have := (hplaces.subperm below).length_le
  rwa [hlength, List.length_range] at this

theorem subset (h : Chosen items amount chosen) : ∀ item ∈ chosen, item ∈ items := by
  obtain ⟨places, -, -, hitems⟩ := h
  intro item hitem
  have hmem : some item ∈ places.map (items[·]?) := hitems ▸ List.mem_map_of_mem hitem
  obtain ⟨i, -, hi⟩ := List.mem_map.mp hmem
  exact List.mem_of_getElem? hi

/-- Of different items no two chosen ones are the same. -/
theorem nodup (h : Chosen items amount chosen) (hitems : items.Nodup) : chosen.Nodup := by
  obtain ⟨places, hplaces, -, hchosen⟩ := h
  have apart : (places.map (items[·]?)).Nodup := by
    unfold List.Nodup
    rw [List.pairwise_map]
    refine hplaces.imp_of_mem fun {i j} hi _ hne heq => hne ?_
    have hmem : items[i]? ∈ chosen.map some := hchosen ▸ List.mem_map_of_mem hi
    obtain ⟨item, -, hitem⟩ := List.mem_map.mp hmem
    exact (List.getElem?_inj (List.getElem?_eq_some_iff.mp hitem.symm).1 hitems).mp heq
  rw [hchosen] at apart
  exact List.Pairwise.of_map some (fun _ _ hne heq => hne (congrArg some heq)) apart

end Chosen

end Dealer.Generator
