-- The order in which labels are recorded. Cards leave a pile front to back, round by
-- round, but a deal is recorded hand by hand. The labels are the same, and they stand in
-- the order in which they were dealt where each deal ends in its first round.
import Dealer.Holdings
import Dealer.Proofs.Grouping
import Dealer.Proofs.SetAlgebra
import Mathlib.Data.List.Induction
import Mathlib.Data.List.Perm.Basic

namespace Dealer

/-! ## Places, hand by hand -/

/-- The first `n` places of a pile that goes round `m` members, hand by hand. -/
def placesByHand (m n : Nat) : List Nat :=
  (List.range m).flatMap fun j => (List.range n).filter fun i => i % m = j

theorem placesByHand_perm {m : Nat} (hm : 0 < m) (n : Nat) :
    (placesByHand m n).Perm (List.range n) :=
  flatMap_filter_perm (· % m) List.nodup_range fun i _ => List.mem_range.mpr (Nat.mod_lt i hm)

/-- The places rise where there is one hand, and where no hand has a second place. -/
theorem placesByHand_rising_iff {m n : Nat} :
    (placesByHand m n).Pairwise (· < ·) ↔ m ≤ 1 ∨ n ≤ m := by
  unfold placesByHand
  rw [List.pairwise_flatMap]
  constructor
  · rintro ⟨-, rising⟩
    by_contra hmore
    -- The second place of the first hand stands before the first place of the second hand.
    have before := List.pairwise_iff_getElem.mp rising 0 1 (by simp; omega) (by simp; omega)
      Nat.zero_lt_one
    simp only [List.getElem_range, List.mem_filter, List.mem_range, decide_eq_true_eq] at before
    have := before m ⟨by omega, Nat.mod_self m⟩ 1 ⟨by omega, Nat.mod_eq_of_lt (by omega)⟩
    omega
  · intro hfew
    refine ⟨fun j _ => List.pairwise_lt_range.filter _, ?_⟩
    refine List.pairwise_lt_range.imp_of_mem fun {j j'} hj hj' hlt x hx y hy => ?_
    simp only [List.mem_range, List.mem_filter, decide_eq_true_eq] at hj hj' hx hy
    rcases hfew with hone | hround
    · omega
    · rw [Nat.mod_eq_of_lt (by omega)] at hx hy
      omega

theorem placesByHand_eq_range_iff {m : Nat} (hm : 0 < m) (n : Nat) :
    placesByHand m n = List.range n ↔ m ≤ 1 ∨ n ≤ m := by
  rw [← placesByHand_rising_iff]
  constructor
  · intro h
    rw [h]
    exact List.pairwise_lt_range
  · intro rising
    exact (placesByHand_perm hm n).eq_of_pairwise (fun a b _ _ hab hba => by omega) rising
      List.pairwise_lt_range

/-! ## Cards at places -/

theorem filterMap_getElem?_range (pile : List String) (n : Nat) :
    (List.range n).filterMap (pile[·]?) = pile.take n := by
  induction n with
  | zero => rfl
  | succ n ih =>
    rw [List.range_succ, List.filterMap_append, ih, List.take_add_one]
    cases h : pile[n]? <;> simp [h]

/-- Of different cards each tells its place. -/
theorem map_idxOf_filterMap {pile : List String} (h : pile.Nodup) {places : List Nat}
    (there : ∀ i ∈ places, i < pile.length) :
    (places.filterMap (pile[·]?)).map pile.idxOf = places := by
  induction places with
  | nil => rfl
  | cons i places ih =>
    obtain ⟨hi, hplaces⟩ := List.forall_mem_cons.mp there
    rw [List.filterMap_cons_some (List.getElem?_eq_getElem hi), List.map_cons, ih hplaces,
      h.idxOf_getElem]

/-! ## Cards, hand by hand -/

/-- A pile that is dealt round members. -/
structure Deal where
  pile : List String
  members : List String
  limit : Option Nat

namespace Deal

/-- How the pile is dealt. -/
def outcome (deal : Deal) : Dealt := .ofPile deal.pile deal.members deal.limit

/-- The cards that are dealt, in the order in which they leave the pile. -/
def cards (deal : Deal) : List String :=
  deal.pile.take (deal.pile.length - deal.outcome.leftover.length)

/-- The cards that are dealt, hand by hand: to each member those at every so many places. -/
def cardsByHand (deal : Deal) : List String :=
  (List.range deal.members.length).flatMap
    (cardsAt deal.pile deal.cards.length deal.members.length)

/-- The deal ends in its first round, or it goes to one member only. -/
def InOneRound (deal : Deal) : Prop :=
  deal.members.length ≤ 1 ∨ deal.cards.length ≤ deal.members.length

variable (deal : Deal)

/-- The cards that are dealt are what is not left over. -/
theorem cards_append_leftover : deal.cards ++ deal.outcome.leftover = deal.pile := by
  have rest : deal.outcome.leftover <:+ deal.pile := by
    by_cases h : deal.members = []
    · refine ⟨[], ?_⟩
      rw [List.nil_append, outcome, h, Dealt.ofPile_nil]
    · rw [outcome, Dealt.ofPile_leftover_eq h]
      exact List.drop_suffix _ _
  obtain ⟨front, hfront⟩ := rest
  have size : deal.pile.length - deal.outcome.leftover.length = front.length := by
    rw [← hfront, List.length_append, Nat.add_sub_cancel]
  rw [cards, size]
  nth_rewrite 1 [← hfront]
  rw [List.take_left, hfront]

theorem length_cards (h : deal.members ≠ []) :
    deal.cards.length =
      min deal.pile.length (Dealt.cardsDealt deal.pile.length deal.members.length deal.limit) := by
  have whole := congrArg List.length deal.cards_append_leftover
  rw [List.length_append, outcome, Dealt.ofPile_leftover_eq h, List.length_drop] at whole
  omega

/-- The hands are recorded one after the other. -/
theorem hands_eq : deal.outcome.hands.flatMap Prod.snd = deal.cardsByHand := by
  by_cases h : deal.members = []
  · rw [cardsByHand, outcome, h, Dealt.ofPile_nil]
    rfl
  have hm : 0 < deal.members.length := List.length_pos_iff.mpr h
  have hands : deal.outcome.hands.map Prod.snd = (List.range deal.members.length).map
      (cardsAt deal.pile deal.cards.length deal.members.length) := by
    apply List.ext_getElem?
    intro j
    rw [List.getElem?_map, outcome, Dealt.ofPile_getElem?, List.getElem?_map]
    by_cases hj : j < deal.members.length
    · rw [List.getElem?_eq_getElem hj, List.getElem?_range hj, Option.map_some, Option.map_some,
        Option.map_some, everyNth_eq_cardsAt deal.pile hj, ← cardsAt_min,
        Dealt.min_rounds_mul hm, ← cardsAt_min, ← deal.length_cards h]
    · rw [List.getElem?_eq_none (by omega), List.getElem?_eq_none (by simp; omega)]
      rfl
  rw [List.flatMap_def, hands, ← List.flatMap_def, cardsByHand]

/-! ### Both orders -/

/-- What is left over is in no hand. -/
theorem cardsByHand_eq_filterMap : deal.cardsByHand =
    (placesByHand deal.members.length deal.cards.length).filterMap (deal.cards[·]?) := by
  rw [placesByHand, List.filterMap_flatMap]
  refine List.flatMap_congr fun j _ => List.filterMap_congr fun i hi => ?_
  have hlt : i < deal.cards.length := List.mem_range.mp (List.mem_filter.mp hi).1
  rw [← deal.cards_append_leftover, List.getElem?_append_left hlt]

/-- Where there are no members nothing is dealt. -/
theorem cards_of_nobody (h : deal.members = []) : deal.cards = [] := by
  rw [cards, outcome, h, Dealt.ofPile_nil]
  simp

/-- The same cards are dealt and recorded. -/
theorem cardsByHand_perm : deal.cardsByHand.Perm deal.cards := by
  by_cases h : deal.members = []
  · rw [cardsByHand, deal.cards_of_nobody h, h]
    exact List.Perm.nil
  · have perm := (placesByHand_perm (List.length_pos_iff.mpr h) deal.cards.length).filterMap
      (deal.cards[·]?)
    rwa [← cardsByHand_eq_filterMap, filterMap_getElem?_range, List.take_length] at perm

variable {deal}

/-- In one round the cards are recorded in the order in which they are dealt. -/
theorem InOneRound.cardsByHand_eq (h : deal.InOneRound) : deal.cardsByHand = deal.cards := by
  by_cases hnone : deal.members = []
  · rw [cardsByHand, deal.cards_of_nobody hnone, hnone]
    rfl
  · rw [cardsByHand_eq_filterMap,
      (placesByHand_eq_range_iff (List.length_pos_iff.mpr hnone) _).mpr h,
      filterMap_getElem?_range, List.take_length]

/-- The order shows the rounds if no card comes twice. -/
theorem inOneRound_of_cardsByHand_eq (hcards : deal.cards.Nodup)
    (h : deal.cardsByHand = deal.cards) : deal.InOneRound := by
  by_cases hnone : deal.members = []
  · rw [InOneRound, hnone]
    exact Or.inl (Nat.zero_le _)
  have hm : 0 < deal.members.length := List.length_pos_iff.mpr hnone
  have places : ((List.range deal.cards.length).filterMap (deal.cards[·]?)).map deal.cards.idxOf =
      List.range deal.cards.length :=
    map_idxOf_filterMap hcards fun i => List.mem_range.mp
  have placesByHand := map_idxOf_filterMap hcards fun i hi =>
    List.mem_range.mp ((placesByHand_perm hm _).mem_iff.mp hi)
  rw [← cardsByHand_eq_filterMap, h] at placesByHand
  rw [filterMap_getElem?_range, List.take_length] at places
  exact (placesByHand_eq_range_iff hm _).mp (placesByHand.symm.trans places)

/-- Deals that give the same in both orders do so one by one, as the numbers of cards agree. -/
theorem cardsByHand_eq_of_flatMap {deals : List Deal}
    (h : deals.flatMap cardsByHand = deals.flatMap cards) :
    ∀ deal ∈ deals, deal.cardsByHand = deal.cards := by
  induction deals with
  | nil => simp
  | cons first deals ih =>
    rw [List.flatMap_cons, List.flatMap_cons] at h
    obtain ⟨hfirst, hdeals⟩ := List.append_inj h first.cardsByHand_perm.length_eq
    exact List.forall_mem_cons.mpr ⟨hfirst, ih hdeals⟩

end Deal

/-! ## Records -/

/-- Records after some deals, from the start of a game. -/
def Holdings.ofDeals (deals : List Deal) : Holdings :=
  (deals.map Deal.outcome).foldl Holdings.record {}

/-- The deals that count: all of them, or the last one. -/
def inScope (cumulative : Bool) (deals : List Deal) : List Deal :=
  if cumulative then deals else deals.getLast?.toList

/-- Lists with the same items have the same items once they are cleared of repetitions. -/
theorem eraseDups_perm {items others : List String} (h : items.Perm others) :
    items.eraseDups.Perm others.eraseDups := by
  rw [← distinct_eq_eraseDups, ← distinct_eq_eraseDups,
    List.perm_ext_iff_of_nodup (nodup_distinct _) (nodup_distinct _)]
  intro label
  rw [mem_distinct, mem_distinct, h.mem_iff]

theorem Holdings.ofDeals_snoc (deals : List Deal) (deal : Deal) :
    ofDeals (deals ++ [deal]) = (ofDeals deals).record deal.outcome := by
  rw [ofDeals, List.map_append, List.foldl_append]
  rfl

/-- The labels stand as the hands were recorded, each where it comes first. -/
theorem Holdings.used_ofDeals (deals : List Deal) (cumulative : Bool) :
    (ofDeals deals).used cumulative =
      ((inScope cumulative deals).flatMap Deal.cardsByHand).eraseDups := by
  induction deals using List.reverseRecOn with
  | nil => cases cumulative <;> rfl
  | append_singleton deals deal ih =>
    rw [ofDeals_snoc]
    cases cumulative with
    | false =>
      have last : inScope false (deals ++ [deal]) = [deal] := by
        rw [inScope, List.getLast?_concat]
        rfl
      rw [last, List.flatMap_singleton, ← deal.hands_eq]
      exact distinct_eq_eraseDups _
    | true =>
      have all (deals : List Deal) : inScope true deals = deals := rfl
      rw [all] at ih ⊢
      calc ((ofDeals deals).record deal.outcome).used true
        _ = ((ofDeals deals).used true ++ deal.outcome.hands.flatMap Prod.snd).eraseDups :=
          distinct_eq_eraseDups _
        _ = (deals.flatMap Deal.cardsByHand ++ deal.cardsByHand).eraseDups := by
          rw [ih, deal.hands_eq, eraseDups_eraseDups_append]
        _ = ((deals ++ [deal]).flatMap Deal.cardsByHand).eraseDups := by
          rw [List.flatMap_append, List.flatMap_singleton]

/-- Items of which none comes twice stay as they are. -/
theorem eraseDups_of_nodup {items : List String} (h : items.Nodup) : items.eraseDups = items := by
  rw [← distinct_eq_eraseDups, distinct_of_nodup h]

/-- The labels that were used are those of the cards that were dealt. They stand hand by hand and
not in the order in which the cards leave the pile: the second card of the first member comes before
the first card of the second one. So they stand in the order of dealing where every deal ends in its
first round or goes to one member, and only there if no card comes twice. -/
theorem labels_are_recorded_hand_by_hand (deals : List Deal) (cumulative : Bool) :
    let used := (Holdings.ofDeals deals).used cumulative
    let scope := inScope cumulative deals
    used = (scope.flatMap Deal.cardsByHand).eraseDups ∧
      used.Perm (scope.flatMap Deal.cards).eraseDups ∧
      ((∀ deal ∈ scope, deal.InOneRound) → used = (scope.flatMap Deal.cards).eraseDups) ∧
      ((scope.flatMap Deal.cards).Nodup → used = (scope.flatMap Deal.cards).eraseDups →
        ∀ deal ∈ scope, deal.InOneRound) := by
  intro used scope
  have recorded : used = (scope.flatMap Deal.cardsByHand).eraseDups :=
    Holdings.used_ofDeals deals cumulative
  have perm : (scope.flatMap Deal.cardsByHand).Perm (scope.flatMap Deal.cards) :=
    List.Perm.flatMap_left scope fun deal _ => deal.cardsByHand_perm
  refine ⟨recorded, ?_, fun hround => ?_, fun hcards hused deal hdeal => ?_⟩
  · rw [recorded]
    exact eraseDups_perm perm
  · rw [recorded, List.flatMap_congr fun deal hdeal => (hround deal hdeal).cardsByHand_eq]
  · rw [recorded, eraseDups_of_nodup hcards, eraseDups_of_nodup (perm.nodup_iff.mpr hcards)]
      at hused
    refine Deal.inOneRound_of_cardsByHand_eq ?_ (Deal.cardsByHand_eq_of_flatMap hused deal hdeal)
    exact (List.nodup_flatMap.mp hcards).1 deal hdeal

/-- Two cards to two members, and then a third one. -/
def oneRoundEach : List Deal := [⟨["A", "B"], ["p", "q"], none⟩, ⟨["C"], ["q", "p"], none⟩]

/-- The labels of deals of one round stand as they were dealt. -/
theorem one_round_is_recorded_as_it_is_dealt :
    (∀ deal ∈ inScope true oneRoundEach, deal.InOneRound) ∧
      ((inScope true oneRoundEach).flatMap Deal.cards).Nodup ∧
      (Holdings.ofDeals oneRoundEach).used true = ["A", "B", "C"] := by
  have rounds : ∀ deal ∈ inScope true oneRoundEach, deal.InOneRound := by
    unfold Deal.InOneRound
    decide
  have cards : (inScope true oneRoundEach).flatMap Deal.cards = ["A", "B", "C"] := by decide
  refine ⟨rounds, by rw [cards]; decide, ?_⟩
  rw [(labels_are_recorded_hand_by_hand oneRoundEach true).2.2.1 rounds, cards]
  decide

/-- Three cards to two members. -/
def twoRounds : Deal := ⟨["A", "B", "C"], ["p", "q"], none⟩

/-- The second card of the first member is recorded before the card of the other member, which was
dealt before it. -/
theorem a_second_round_is_recorded_before_a_second_hand :
    twoRounds.members.Nodup ∧ twoRounds.cards = ["A", "B", "C"] ∧
      (Holdings.record {} twoRounds.outcome).used false = ["A", "C", "B"] ∧
      (Holdings.record {} twoRounds.outcome).used false ≠ twoRounds.cards.eraseDups := by
  have used : (Holdings.record {} twoRounds.outcome).used false = ["A", "C", "B"] := by
    refine (distinct_eq_eraseDups _).trans ?_
    decide
  refine ⟨by decide, by decide, used, ?_⟩
  rw [used]
  decide

end Dealer
