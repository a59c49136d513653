-- The members by the sizes of their hands. Every hand counts once, in the group of its
-- size, and the members of a group stand in the order in which they were dealt to. A
-- deal that goes round the members gives hands of two sizes at most, one card apart.
import Dealer.Proofs.Rounds
import Mathlib.Algebra.Ring.Nat
import Mathlib.Data.List.Sort

namespace Dealer

/-! ## Items under their keys -/

section

variable {α κ : Type} [DecidableEq κ]

/-- An item that comes first in one of the lists comes first in all of them together. -/
theorem flatMap_cons_at_perm {keys : List κ} {k : κ} (hk : k ∈ keys) (once : keys.Nodup) (a : α)
    (under : κ → List α) :
    (keys.flatMap fun j => if k = j then a :: under j else under j).Perm
      (a :: keys.flatMap under) := by
  induction keys with
  | nil => cases hk
  | cons first keys ih =>
    obtain ⟨hfirst, hkeys⟩ := List.nodup_cons.mp once
    rw [List.flatMap_cons, List.flatMap_cons]
    rcases List.mem_cons.mp hk with heq | hk
    · subst heq
      have others : (keys.flatMap fun j => if k = j then a :: under j else under j) =
          keys.flatMap under := by
        refine List.flatMap_congr fun j hj => ?_
        rw [if_neg fun heq : k = j => hfirst (heq ▸ hj)]
      rw [if_pos rfl, others, List.cons_append]
    · rw [if_neg fun heq : k = first => hfirst (heq ▸ hk)]
      calc under first ++ keys.flatMap (fun j => if k = j then a :: under j else under j)
        _ |>.Perm (under first ++ a :: keys.flatMap under) := (ih hk hkeys).append_left _
        _ |>.Perm (a :: (under first ++ keys.flatMap under)) := List.perm_middle

/-- Items that are put under their keys are the items, where every key is there and none comes
twice. -/
theorem flatMap_filter_perm (key : α → κ) {keys : List κ} (once : keys.Nodup) {items : List α}
    (h : ∀ a ∈ items, key a ∈ keys) :
    (keys.flatMap fun k => items.filter fun a => key a = k).Perm items := by
  induction items with
  | nil => simp
  | cons a items ih =>
    obtain ⟨ha, hitems⟩ := List.forall_mem_cons.mp h
    have added : (keys.flatMap fun k => (a :: items).filter fun b => key b = k) =
        keys.flatMap fun k => if key a = k then a :: (items.filter fun b => key b = k)
          else items.filter fun b => key b = k := by
      refine List.flatMap_congr fun k _ => ?_
      rw [List.filter_cons]
      simp only [decide_eq_true_eq]
    rw [added]
    exact (flatMap_cons_at_perm ha once a _).trans ((ih hitems).cons a)

end

/-! ## Groups -/

namespace Dealt

/-- Members in groups, each group under the size of its hands. -/
structure Grouped (d : Dealt) (groups : List (Nat × List String)) : Prop where
  /-- Larger sizes come first, and no size comes twice. -/
  falling : groups.Pairwise fun earlier later => later.1 < earlier.1
  inhabited : ∀ group ∈ groups, group.2 ≠ []
  /-- In a group stand the members with a hand of its size, in the order of the hands. -/
  members : ∀ group ∈ groups,
    group.2 = (d.hands.filter fun hand => hand.2.length = group.1).map Prod.fst
  /-- The member of each hand stands in the group of its size, and nowhere else. -/
  once : (groups.flatMap fun group => group.2.map fun member => (member, group.1)).Perm
    (d.hands.map fun hand => (hand.1, hand.2.length))
  hands : (groups.map fun group => group.2.length).sum = d.hands.length
  cards : (groups.map fun group => group.1 * group.2.length).sum = d.size

/-- The sizes of the hands, the largest first. -/
def sizes (d : Dealt) : List Nat :=
  (distinct (d.hands.map fun hand => hand.2.length)).mergeSort fun a b => decide (b ≤ a)

/-- The members with a hand of a size. -/
def holding (d : Dealt) (n : Nat) : List String :=
  (d.hands.filter fun hand => hand.2.length = n).map Prod.fst

variable {d : Dealt}

theorem bySize_eq (d : Dealt) : d.bySize = d.sizes.map fun n => (n, d.holding n) := rfl

theorem mem_sizes {n : Nat} : n ∈ d.sizes ↔ ∃ hand ∈ d.hands, hand.2.length = n := by
  rw [sizes, List.mem_mergeSort, mem_distinct, List.mem_map]

theorem sizes_falling (d : Dealt) : d.sizes.Pairwise fun a b => b < a := by
  have ordered : d.sizes.Pairwise fun a b => b ≤ a := by
    refine (List.pairwise_mergeSort (fun a b c hab hbc => ?_) (fun a b => ?_) _).imp
      of_decide_eq_true
    · simp only [decide_eq_true_eq] at hab hbc ⊢
      omega
    · simp only [Bool.or_eq_true, decide_eq_true_eq]
      omega
  have different : d.sizes.Nodup :=
    (List.mergeSort_perm _ _).nodup_iff.mpr (nodup_distinct _)
  exact (ordered.and different).imp fun ⟨hle, hne⟩ => by omega

theorem size_eq_sum (d : Dealt) : d.size = (d.hands.map fun hand => hand.2.length).sum := by
  rw [size, List.sum_eq_foldl, List.foldl_map]

/-- The hands, size by size. -/
theorem hands_bySize_perm (d : Dealt) :
    (d.sizes.flatMap fun n => d.hands.filter fun hand => hand.2.length = n).Perm d.hands := by
  refine flatMap_filter_perm (fun hand : Hand => hand.2.length) ?_ fun hand hhand => ?_
  · exact (sizes_falling d).imp fun h => by omega
  · exact mem_sizes.mpr ⟨hand, hhand, rfl⟩

/-- The members of the hands with the sizes of these are those in the groups. -/
theorem bySize_perm (d : Dealt) :
    (d.bySize.flatMap fun group => group.2.map fun member => (member, group.1)).Perm
      (d.hands.map fun hand => (hand.1, hand.2.length)) := by
  have same : (d.bySize.flatMap fun group => group.2.map fun member => (member, group.1)) =
      (d.sizes.flatMap fun n => d.hands.filter fun hand => hand.2.length = n).map
        fun hand => (hand.1, hand.2.length) := by
    rw [bySize_eq, List.flatMap_map, List.map_flatMap]
    refine List.flatMap_congr fun n _ => ?_
    rw [holding, List.map_map]
    refine List.map_congr_left fun hand hhand => ?_
    have hsize : hand.2.length = n := of_decide_eq_true (List.mem_filter.mp hhand).2
    rw [hsize]
    rfl
  rw [same]
  exact d.hands_bySize_perm.map _

theorem grouped_bySize (d : Dealt) : d.Grouped d.bySize := by
  constructor
  case falling =>
    rw [bySize_eq, List.pairwise_map]
    exact d.sizes_falling
  case inhabited =>
    intro group hgroup
    obtain ⟨n, hn, rfl⟩ := List.mem_map.mp hgroup
    obtain ⟨hand, hhand, hsize⟩ := mem_sizes.mp hn
    have found : hand.1 ∈ d.holding n :=
      List.mem_map_of_mem (List.mem_filter.mpr ⟨hhand, decide_eq_true hsize⟩)
    exact List.ne_nil_of_mem found
  case members =>
    intro group hgroup
    obtain ⟨n, -, rfl⟩ := List.mem_map.mp hgroup
    rfl
  case once => exact d.bySize_perm
  case hands =>
    have lengths := d.bySize_perm.length_eq
    rw [List.length_flatMap, List.length_map] at lengths
    simpa using lengths
  case cards =>
    have sums := (d.bySize_perm.map Prod.snd).sum_nat
    rw [size_eq_sum]
    rw [List.map_flatMap, List.flatMap_def, List.sum_flatten, List.map_map, List.map_map] at sums
    simpa [Function.comp_def, Nat.mul_comm] using sums

/-! ## Two sizes -/

variable {groups : List (Nat × List String)}

/-- Each group has a hand of its size. -/
theorem Grouped.exists_hand (h : d.Grouped groups) {group : Nat × List String}
    (hgroup : group ∈ groups) : ∃ hand ∈ d.hands, hand.2.length = group.1 := by
  have inhabited := h.inhabited group hgroup
  rw [h.members group hgroup] at inhabited
  obtain ⟨member, hmember⟩ := List.exists_mem_of_ne_nil _ inhabited
  obtain ⟨hand, hhand, -⟩ := List.mem_map.mp hmember
  obtain ⟨hhand, hsize⟩ := List.mem_filter.mp hhand
  exact ⟨hand, hhand, of_decide_eq_true hsize⟩

/-- Where no two hands differ by more than one card there are two groups at most. -/
theorem Grouped.one_or_two (h : d.Grouped groups) (hhands : d.hands ≠ [])
    (even : ∀ hand ∈ d.hands, ∀ other ∈ d.hands, hand.2.length ≤ other.2.length + 1) :
    ∃ n first, groups = [(n, first)] ∨ ∃ second, groups = [(n + 1, first), (n, second)] := by
  have near : ∀ g ∈ groups, ∀ g' ∈ groups, g.1 ≤ g'.1 + 1 := by
    intro g hg g' hg'
    obtain ⟨hand, hhand, hsize⟩ := h.exists_hand hg
    obtain ⟨other, hother, hsize'⟩ := h.exists_hand hg'
    rw [← hsize, ← hsize']
    exact even hand hhand other hother
  match groups, h.falling with
  | [], _ =>
    have none := h.hands
    rw [List.map_nil, List.sum_nil] at none
    exact absurd (List.length_eq_zero_iff.mp none.symm) hhands
  | [(n, first)], _ => exact ⟨n, first, Or.inl rfl⟩
  | [(n, first), (m, second)], falling =>
    have below : m < n := by simpa using falling
    have close := near (n, first) (by simp) (m, second) (by simp)
    obtain rfl : n = m + 1 := by dsimp only at close; omega
    exact ⟨m, first, Or.inr ⟨second, rfl⟩⟩
  | g :: g' :: g'' :: rest, falling =>
    -- The first and the third size are two cards apart.
    have first : g'.1 < g.1 := List.rel_of_pairwise_cons falling (by simp)
    have second : g''.1 < g'.1 := List.rel_of_pairwise_cons falling.tail (by simp)
    have close := near g (by simp) g'' (by simp)
    omega

/-- The members of a deal in groups by the sizes of their hands: the sizes fall, every hand counts
once and in the group of its size, and the groups together have all hands and all cards that were
dealt. A deal round some members gives one group, or two with sizes that follow each other. -/
theorem every_hand_counts_in_the_group_of_its_size :
    (∀ d : Dealt, d.Grouped d.bySize) ∧
      ∀ (pile members : List String) (limit : Option Nat), members ≠ [] →
        ∃ n first, (ofPile pile members limit).bySize = [(n, first)] ∨
          ∃ second, (ofPile pile members limit).bySize = [(n + 1, first), (n, second)] := by
  refine ⟨grouped_bySize, fun pile members limit hmembers => ?_⟩
  refine (grouped_bySize _).one_or_two (fun hnone => hmembers ?_) fun hand hhand other hother => ?_
  · rw [← ofPile_names pile members limit, hnone]
    rfl
  · exact ofPile_even hhand hother

/-- Of three cards round two members the first member gets two. -/
theorem three_cards_make_two_groups :
    ["p", "q"] ≠ [] ∧
      (ofPile ["A", "B", "C"] ["p", "q"] none).bySize = [(2, ["p"]), (1, ["q"])] ∧
      ∃ n first, (ofPile ["A", "B", "C"] ["p", "q"] none).bySize = [(n, first)] ∨
        ∃ second, (ofPile ["A", "B", "C"] ["p", "q"] none).bySize =
          [(n + 1, first), (n, second)] := by
  have seated : ["p", "q"] ≠ [] := by decide
  refine ⟨seated, ?_, every_hand_counts_in_the_group_of_its_size.2 _ _ none seated⟩
  have hands : ofPile ["A", "B", "C"] ["p", "q"] none =
      ⟨[("p", ["A", "C"]), ("q", ["B"])], []⟩ := by
    decide
  rw [hands]
  simp [bySize, distinct, distinctFrom, List.mergeSort]

end Dealt
end Dealer
