-- Dealing round the members. Every hand holds the cards of the pile at every so many
-- places, so the hands differ by one card at most, nothing is lost, and cards are
-- left over only where a limit ends the deal early.
import Dealer.Hands

namespace Dealer

/-! ## One round -/

theorem length_addRow {cards : List String} {hands : List (List String)} :
    (addRow cards hands).length = hands.length := by
  induction cards generalizing hands with
  | nil => simp [addRow]
  | cons card cards ih =>
    cases hands with
    | nil => simp [addRow]
    | cons hand hands => simp [addRow, ih]

/-- A round puts the card at a hand's place on top of the hand. -/
theorem addRow_getElem? (cards : List String) (hands : List (List String)) (j : Nat) :
    (addRow cards hands)[j]? = hands[j]?.map fun hand => cards[j]?.toList ++ hand := by
  induction cards generalizing hands j with
  | nil => simp [addRow]
  | cons card cards ih =>
    cases hands with
    | nil => simp [addRow]
    | cons hand hands =>
      cases j with
      | zero => simp [addRow]
      | succ j => simp [addRow, ih]

theorem addRow_perm {cards : List String} {hands : List (List String)}
    (h : cards.length ≤ hands.length) :
    (addRow cards hands).flatten.Perm (cards ++ hands.flatten) := by
  induction cards generalizing hands with
  | nil => simp [addRow]
  | cons card cards ih =>
    cases hands with
    | nil => simp at h
    | cons hand hands =>
      have hle : cards.length ≤ hands.length := by simpa using h
      simp only [addRow, List.flatten_cons, List.cons_append]
      apply List.Perm.cons
      calc hand ++ (addRow cards hands).flatten
        _ |>.Perm (hand ++ (cards ++ hands.flatten)) := (ih hle).append_left hand
        _ |>.Perm (cards ++ (hand ++ hands.flatten)) := by
          rw [← List.append_assoc, ← List.append_assoc]
          exact List.perm_append_comm.append_right _

/-! ## All rounds -/

/-- The cards of a pile at the place `j` and at every `m`-th place behind it, in so many rounds. -/
def everyNth (pile : List String) (m j rounds : Nat) : List String :=
  (List.range rounds).filterMap fun i => pile[i * m + j]?

theorem everyNth_succ (pile : List String) (m j rounds : Nat) :
    everyNth pile m j (rounds + 1) = pile[j]?.toList ++ everyNth (pile.drop m) m j rounds := by
  have later : ∀ i, pile[(i + 1) * m + j]? = (pile.drop m)[i * m + j]? := by
    intro i
    rw [List.getElem?_drop]
    congr 1
    rw [Nat.add_mul]
    omega
  unfold everyNth
  rw [List.range_succ_eq_map, List.filterMap_cons, List.filterMap_map]
  simp only [Function.comp_def, Nat.succ_eq_add_one, later, Nat.zero_mul, Nat.zero_add]
  cases pile[j]? <;> rfl

/-- The number of cards at every `m`-th place, where `n` of them are at the place or behind it. -/
theorem length_everyNth (pile : List String) {m : Nat} (hm : 0 < m) (j rounds : Nat) :
    (everyNth pile m j rounds).length = min rounds ((pile.length - j + m - 1) / m) := by
  induction rounds with
  | zero => simp [everyNth]
  | succ rounds ih =>
    have reached : rounds + 1 ≤ (pile.length - j + m - 1) / m ↔ rounds * m + j < pile.length := by
      rw [Nat.le_div_iff_mul_le hm, Nat.add_mul]
      omega
    unfold everyNth at ih ⊢
    rw [List.range_succ, List.filterMap_append, List.length_append, ih]
    by_cases h : rounds * m + j < pile.length
    · have := reached.mpr h
      simp [h]
      omega
    · have := mt reached.mp h
      simp [h]
      omega

theorem dealRounds_getElem? (m rounds : Nat) (pile : List String) {j : Nat} (hj : j < m) :
    (dealRounds m rounds pile).1[j]? = some (everyNth pile m j rounds) := by
  induction rounds generalizing pile with
  | zero => simp [dealRounds, everyNth, hj]
  | succ rounds ih =>
    simp only [dealRounds, addRow_getElem?, ih, Option.map_some, everyNth_succ,
      List.getElem?_take, hj, if_true]

theorem length_dealRounds (m rounds : Nat) (pile : List String) :
    (dealRounds m rounds pile).1.length = m := by
  induction rounds generalizing pile with
  | zero => simp [dealRounds]
  | succ rounds ih => simp [dealRounds, length_addRow, ih]

/-- What is left lies behind the cards of all rounds. -/
theorem dealRounds_snd (m rounds : Nat) (pile : List String) :
    (dealRounds m rounds pile).2 = pile.drop (rounds * m) := by
  induction rounds generalizing pile with
  | zero => simp [dealRounds]
  | succ rounds ih =>
    simp only [dealRounds, ih, List.drop_drop]
    congr 1
    rw [Nat.add_mul]
    omega

/-- The hands and what is left are the pile. -/
theorem dealRounds_perm (m rounds : Nat) (pile : List String) :
    ((dealRounds m rounds pile).1.flatten ++ (dealRounds m rounds pile).2).Perm pile := by
  induction rounds generalizing pile with
  | zero => simp [dealRounds]
  | succ rounds ih =>
    have hle : (pile.take m).length ≤ (dealRounds m rounds (pile.drop m)).1.length := by
      rw [length_dealRounds, List.length_take]
      omega
    simp only [dealRounds]
    calc (addRow (pile.take m) (dealRounds m rounds (pile.drop m)).1).flatten
          ++ (dealRounds m rounds (pile.drop m)).2
      _ |>.Perm ((pile.take m ++ (dealRounds m rounds (pile.drop m)).1.flatten)
          ++ (dealRounds m rounds (pile.drop m)).2) := (addRow_perm hle).append_right _
      _ |>.Perm (pile.take m ++ pile.drop m) := by
        rw [List.append_assoc]
        exact (ih _).append_left _
      _ |>.Perm pile := by rw [List.take_append_drop]

/-! ## Places in the pile -/

/-- Of the first `n` cards of a pile those at the places that leave the remainder `j` by `m`. -/
def cardsAt (pile : List String) (n m j : Nat) : List String :=
  ((List.range n).filter fun i => i % m = j).filterMap fun i => pile[i]?

/-- The places of a member are one in each round. -/
theorem filter_range_mod {m j : Nat} (hj : j < m) (rounds : Nat) :
    (List.range (rounds * m)).filter (fun i => i % m = j) =
      (List.range rounds).map fun i => i * m + j := by
  -- Within one round only the place `j` itself counts.
  have once : (List.range m).filter (fun i => i % m = j) = [j] := by
    have same : (List.range m).filter (fun i => i % m = j) = (List.range m).filter (· = j) := by
      apply List.filter_congr
      intro i hi
      rw [Nat.mod_eq_of_lt (List.mem_range.mp hi)]
    rw [same, List.filter_eq, List.nodup_range.count, if_pos (List.mem_range.mpr hj)]
    rfl
  induction rounds with
  | zero => simp
  | succ rounds ih =>
    have later : ((List.range m).map (rounds * m + ·)).filter (fun i => i % m = j) =
        [rounds * m + j] := by
      simp [List.filter_map, Function.comp_def, once]
    rw [Nat.add_mul, Nat.one_mul, List.range_add, List.filter_append, ih, later,
      List.range_succ, List.map_append]
    rfl

/-- Behind the end of a pile there are no cards. -/
theorem cardsAt_min (pile : List String) (n m j : Nat) :
    cardsAt pile (min pile.length n) m j = cardsAt pile n m j := by
  by_cases h : n ≤ pile.length
  · rw [Nat.min_eq_right h]
  · obtain ⟨more, rfl⟩ : ∃ more, n = pile.length + more := ⟨n - pile.length, by omega⟩
    have none : (((List.range more).map (pile.length + ·)).filter fun i => i % m = j).filterMap
        (fun i => pile[i]?) = [] := by
      rw [List.filterMap_eq_nil_iff]
      intro i hi
      have hmore := (List.mem_filter.mp hi).1
      obtain ⟨k, _, rfl⟩ := List.mem_map.mp hmore
      simp
    rw [Nat.min_eq_left (by omega)]
    unfold cardsAt
    rw [List.range_add, List.filter_append, List.filterMap_append, none, List.append_nil]

theorem everyNth_eq_cardsAt (pile : List String) {m j : Nat} (hj : j < m) (rounds : Nat) :
    everyNth pile m j rounds = cardsAt pile (rounds * m) m j := by
  unfold everyNth cardsAt
  rw [filter_range_mod hj, List.filterMap_map]
  rfl

/-! ## A deal -/

namespace Dealt

/-- The rounds of a deal. -/
def rounds (size m : Nat) (limit : Option Nat) : Nat :=
  match limit with
  | none => roundsNeeded size m
  | some l => min l (roundsNeeded size m)

@[simp] theorem rounds_none (size m : Nat) : rounds size m none = roundsNeeded size m := rfl

@[simp] theorem rounds_some (size m l : Nat) :
    rounds size m (some l) = min l (roundsNeeded size m) := rfl

/-- The rounds that it takes leave nothing. -/
theorem le_roundsNeeded_mul {m : Nat} (hm : 0 < m) (size : Nat) :
    size ≤ roundsNeeded size m * m := by
  unfold roundsNeeded
  have := Nat.lt_div_mul_add (a := size + m - 1) hm
  omega

variable {pile members : List String} {limit : Option Nat}

theorem ofPile_nil (pile : List String) (limit : Option Nat) :
    ofPile pile [] limit = ⟨[], pile⟩ := by
  simp [ofPile]

theorem ofPile_of_ne_nil (h : members ≠ []) (pile : List String) (limit : Option Nat) :
    ofPile pile members limit =
      ⟨members.zip (dealRounds members.length (rounds pile.length members.length limit) pile).1,
        pile.drop (rounds pile.length members.length limit * members.length)⟩ := by
  unfold ofPile rounds
  rw [if_neg h]
  cases limit <;> simp only [dealRounds_snd]

/-- Every member has a hand, in the order of the members. -/
theorem ofPile_names (pile members : List String) (limit : Option Nat) :
    (ofPile pile members limit).hands.map Prod.fst = members := by
  by_cases h : members = []
  · rw [h, ofPile_nil]
    rfl
  · rw [ofPile_of_ne_nil h]
    apply List.map_fst_zip
    simp [length_dealRounds]

/-- Nothing is lost and nothing is added. -/
theorem ofPile_perm (pile members : List String) (limit : Option Nat) :
    ((ofPile pile members limit).hands.flatMap Prod.snd
      ++ (ofPile pile members limit).leftover).Perm pile := by
  by_cases h : members = []
  · rw [h, ofPile_nil]
    simp
  · rw [ofPile_of_ne_nil h, ← dealRounds_snd, List.flatMap_def, List.map_snd_zip]
    · exact dealRounds_perm _ _ _
    · simp [length_dealRounds]

/-- The hand at a place is that of the member there. It holds the cards at this place in every
round. -/
theorem ofPile_getElem? (pile members : List String) (limit : Option Nat) (j : Nat) :
    (ofPile pile members limit).hands[j]? = members[j]?.map fun member =>
      (member, everyNth pile members.length j (rounds pile.length members.length limit)) := by
  by_cases h : members = []
  · simp [h, ofPile_nil]
  · rw [ofPile_of_ne_nil h]
    by_cases hj : j < members.length
    · simp [List.getElem?_zip_eq_some, dealRounds_getElem? _ _ _ hj, hj]
    · simp [length_dealRounds, hj]

/-- The size of a hand is what the rounds give at its place. -/
theorem size_of_getElem? {j : Nat} {hand : Hand}
    (h : (ofPile pile members limit).hands[j]? = some hand) :
    j < members.length ∧ hand.2.length =
      min (rounds pile.length members.length limit)
        ((pile.length - j + members.length - 1) / members.length) := by
  rw [ofPile_getElem?] at h
  obtain ⟨member, hmember, rfl⟩ := Option.map_eq_some_iff.mp h
  have hj : j < members.length := (List.getElem?_eq_some_iff.mp hmember).1
  exact ⟨hj, length_everyNth pile (by omega) j _⟩

theorem exists_size_of_mem {hand : Hand} (h : hand ∈ (ofPile pile members limit).hands) :
    ∃ j < members.length, hand.2.length =
      min (rounds pile.length members.length limit)
        ((pile.length - j + members.length - 1) / members.length) := by
  obtain ⟨j, hj⟩ := List.mem_iff_getElem?.mp h
  exact ⟨j, size_of_getElem? hj⟩

/-- No hand is larger than the limit. -/
theorem ofPile_le_limit {l : Nat} {hand : Hand}
    (h : hand ∈ (ofPile pile members (some l)).hands) : hand.2.length ≤ l := by
  obtain ⟨j, _, hsize⟩ := exists_size_of_mem h
  simp only [rounds_some] at hsize
  omega

/-- A hand holds one card more than another at most. -/
theorem ofPile_even {hand other : Hand} (h : hand ∈ (ofPile pile members limit).hands)
    (h' : other ∈ (ofPile pile members limit).hands) :
    hand.2.length ≤ other.2.length + 1 := by
  obtain ⟨i, hi, hsize⟩ := exists_size_of_mem h
  obtain ⟨j, hj, hsize'⟩ := exists_size_of_mem h'
  have hm : 0 < members.length := by omega
  have near : (pile.length - i + members.length - 1) / members.length ≤
      (pile.length - j + members.length - 1) / members.length + 1 := by
    rw [← Nat.add_div_right _ hm]
    apply Nat.div_le_div_right
    omega
  rw [hsize, hsize']
  omega

/-- How many cards of a pile are dealt to `m` members. -/
def cardsDealt (size m : Nat) : Option Nat → Nat
  | none => size
  | some l => min size (l * m)

/-- The rounds of a deal take the cards that are dealt. -/
theorem min_rounds_mul {m : Nat} (hm : 0 < m) (size : Nat) (limit : Option Nat) :
    min size (rounds size m limit * m) = cardsDealt size m limit := by
  have enough := le_roundsNeeded_mul hm size
  cases limit with
  | none => exact Nat.min_eq_left enough
  | some l =>
    rw [rounds_some, cardsDealt, ← Nat.mul_min_mul_right]
    omega

/-- What is left over lies behind the cards that are dealt. -/
theorem ofPile_leftover_eq (h : members ≠ []) (pile : List String) (limit : Option Nat) :
    (ofPile pile members limit).leftover =
      pile.drop (cardsDealt pile.length members.length limit) := by
  have hm : 0 < members.length := List.length_pos_iff.mpr h
  rw [ofPile_of_ne_nil h, ← min_rounds_mul hm]
  by_cases hle : pile.length ≤ rounds pile.length members.length limit * members.length
  · rw [Nat.min_eq_left hle]
    simp [hle]
  · rw [Nat.min_eq_right (by omega)]

/-- Fewer cards than there are get dealt only under a limit. -/
theorem cardsDealt_lt_iff {size m : Nat} :
    cardsDealt size m limit < size ↔ ∃ l ∈ limit, l * m < size := by
  cases limit with
  | none => simp [cardsDealt]
  | some l =>
    simp only [cardsDealt, Option.mem_some_iff, exists_eq_left']
    omega

/-- Cards are left over only where nobody is dealt to or where every hand is as large as the limit
allows. -/
theorem ofPile_leftover (h : (ofPile pile members limit).leftover ≠ []) :
    members = [] ∨ ∃ l, limit = some l ∧
      ∀ hand ∈ (ofPile pile members limit).hands, hand.2.length = l := by
  by_cases hne : members = []
  · exact Or.inl hne
  have hm : 0 < members.length := List.length_pos_iff.mpr hne
  rw [ofPile_leftover_eq hne] at h
  simp only [ne_eq, List.drop_eq_nil_iff, Nat.not_le] at h
  obtain ⟨l, rfl, early⟩ := cardsDealt_lt_iff.mp h
  refine Or.inr ⟨l, rfl, fun hand hhand => ?_⟩
  obtain ⟨j, hj, hsize⟩ := exists_size_of_mem hhand
  have full : l ≤ (pile.length - j + members.length - 1) / members.length := by
    rw [Nat.le_div_iff_mul_le hm]
    omega
  have fewer : (pile.length - j + members.length - 1) / members.length ≤
      roundsNeeded pile.length members.length := by
    apply Nat.div_le_div_right
    omega
  rw [hsize, rounds_some]
  omega

/-! ## The closed form -/

/-- How a pile is dealt round the members. -/
structure GoesRound (pile members : List String) (limit : Option Nat) (d : Dealt) : Prop where
  /-- In the order of the members each has a hand. It holds the cards that were dealt at every so
  many places, in the order of the pile. -/
  hands : d.hands = members.mapIdx fun j member =>
    (member, cardsAt pile (cardsDealt pile.length members.length limit) members.length j)
  /-- Behind the cards that were dealt the pile is left over. -/
  leftover : d.leftover =
    if members = [] then pile else pile.drop (cardsDealt pile.length members.length limit)
  /-- No card is lost, and no card is new. -/
  conserved : (d.hands.flatMap Prod.snd ++ d.leftover).Perm pile
  /-- The hands get smaller on the way round, by one card at most. -/
  falling : d.hands.Pairwise fun earlier later =>
    later.2.length ≤ earlier.2.length ∧ earlier.2.length ≤ later.2.length + 1
  /-- Cards are left over where there is nobody, and where the limit ends the deal early. -/
  cutShort : d.leftover ≠ [] ↔
    (members = [] ∧ pile ≠ []) ∨
      members ≠ [] ∧ ∃ l ∈ limit, l * members.length < pile.length

/-- A deal goes round the members. It is known without dealing who gets which card: the places of a
hand in the pile leave the same remainder by the number of members. -/
theorem a_deal_goes_round_the_members (pile members : List String) (limit : Option Nat) :
    GoesRound pile members limit (ofPile pile members limit) := by
  constructor
  case hands =>
    apply List.ext_getElem?
    intro j
    rw [ofPile_getElem?, List.getElem?_mapIdx]
    cases h : members[j]? with
    | none => rfl
    | some member =>
      have hj : j < members.length := (List.getElem?_eq_some_iff.mp h).1
      rw [Option.map_some, Option.map_some, everyNth_eq_cardsAt pile hj, ← cardsAt_min,
        min_rounds_mul (by omega)]
  case leftover =>
    by_cases h : members = []
    · simp [h, ofPile_nil]
    · rw [if_neg h, ofPile_leftover_eq h]
  case conserved => exact ofPile_perm pile members limit
  case falling =>
    rw [List.pairwise_iff_getElem]
    intro i j hi hj hij
    obtain ⟨_, hsize⟩ := size_of_getElem? (List.getElem?_eq_getElem hi)
    obtain ⟨_, hsize'⟩ := size_of_getElem? (List.getElem?_eq_getElem hj)
    constructor
    · have fewer : (pile.length - j + members.length - 1) / members.length ≤
          (pile.length - i + members.length - 1) / members.length := by
        apply Nat.div_le_div_right
        omega
      rw [hsize, hsize']
      omega
    · exact ofPile_even (List.getElem_mem hi) (List.getElem_mem hj)
  case cutShort =>
    by_cases h : members = []
    · simp [h, ofPile_nil]
    · simpa [h, ofPile_leftover_eq h] using cardsDealt_lt_iff

end Dealt

end Dealer
