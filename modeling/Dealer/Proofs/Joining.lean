-- Lists of decks, cut anywhere. The size of a list is checked after each of its decks,
-- and that of a list inside a list on its own first. Both come to one check, that of all
-- cards, so a list gives the same cards, and leaves the same run, however it is cut.
import Dealer.Proofs.Sizes

namespace Dealer

/-! ## What is gathered, step by step -/

theorem checkSize_of_le {size : Nat} (h : size ≤ maxCount) (run : Run) :
    (Eval.ofExcept (checkSize size) : Eval Run Unit) run = .ok () run := by
  unfold checkSize
  rw [if_neg (Nat.not_lt.mpr h)]
  rfl

section

variable {size : Nat} {run left : Run} {cards : List String}

theorem gather_nil_eq_ok : gather size [] run = .ok cards left ↔ cards = [] ∧ left = run := by
  constructor
  · intro h
    cases h
    exact ⟨rfl, rfl⟩
  · rintro ⟨rfl, rfl⟩
    rfl

/-- The first deck is built and fits, and the others are gathered behind it. -/
theorem gather_cons_eq_ok {part : Eval Run (List String)} {parts : List (Eval Run (List String))} :
    gather size (part :: parts) run = .ok cards left ↔
      ∃ first after others, part run = .ok first after ∧ size + first.length ≤ maxCount ∧
        gather (size + first.length) parts after = .ok others left ∧ cards = first ++ others := by
  constructor
  · intro h
    obtain ⟨first, after, hfirst, hrest⟩ := Eval.exists_of_bind_ok h
    obtain ⟨_, same, hcheck, hrest⟩ := Eval.exists_of_bind_ok hrest
    obtain ⟨others, final, hothers, hend⟩ := Eval.exists_of_bind_ok hrest
    rw [Eval.ofExcept_ok hcheck] at hothers
    cases hend
    exact ⟨first, after, others, hfirst, checkSize_le hcheck, hothers, rfl⟩
  · rintro ⟨first, after, others, hfirst, hfits, hothers, rfl⟩
    unfold gather
    rw [Eval.bind_ok hfirst, Eval.bind_ok (checkSize_of_le hfits after), Eval.bind_ok hothers]
    rfl

/-- One list behind another is gathered behind it. -/
theorem gather_append_eq_ok {parts others : List (Eval Run (List String))} :
    gather size (parts ++ others) run = .ok cards left ↔
      ∃ front between back, gather size parts run = .ok front between ∧
        gather (size + front.length) others between = .ok back left ∧ cards = front ++ back := by
  induction parts generalizing size run cards with
  | nil =>
    simp only [List.nil_append, gather_nil_eq_ok]
    constructor
    · intro h
      exact ⟨[], run, cards, ⟨rfl, rfl⟩, h, rfl⟩
    · rintro ⟨_, _, back, ⟨rfl, rfl⟩, hback, rfl⟩
      exact hback
  | cons part parts ih =>
    simp only [List.cons_append, gather_cons_eq_ok, ih]
    constructor
    · rintro ⟨first, after, _, hfirst, hfits, ⟨front, between, back, hfront, hback, rfl⟩, rfl⟩
      refine ⟨first ++ front, between, back, ⟨first, after, front, hfirst, hfits, hfront, rfl⟩, ?_,
        by rw [List.append_assoc]⟩
      rw [List.length_append, ← Nat.add_assoc]
      exact hback
    · rintro ⟨_, between, back, ⟨first, after, front, hfirst, hfits, hfront, rfl⟩, hback, rfl⟩
      rw [List.length_append, ← Nat.add_assoc] at hback
      exact ⟨first, after, front ++ back, hfirst, hfits, ⟨front, between, back, hfront, hback, rfl⟩,
        by rw [List.append_assoc]⟩

/-- What counts from the start is only the last check, so a list behind other cards gives what it
gives alone, if there is room for it. -/
theorem gather_eq_ok_iff_alone {parts : List (Eval Run (List String))} (hsize : size ≤ maxCount) :
    gather size parts run = .ok cards left ↔
      gather 0 parts run = .ok cards left ∧ size + cards.length ≤ maxCount := by
  induction parts generalizing size run cards with
  | nil =>
    rw [gather_nil_eq_ok, gather_nil_eq_ok]
    constructor
    · rintro ⟨rfl, rfl⟩
      exact ⟨⟨rfl, rfl⟩, hsize⟩
    · exact And.left
  | cons part parts ih =>
    simp only [gather_cons_eq_ok, Nat.zero_add]
    constructor
    · rintro ⟨first, after, others, hfirst, hfits, hothers, rfl⟩
      obtain ⟨halone, hall⟩ := (ih hfits).mp hothers
      have hfits' : first.length ≤ maxCount := by omega
      refine ⟨⟨first, after, others, hfirst, hfits', ?_, rfl⟩, ?_⟩
      · exact (ih hfits').mpr ⟨halone, by omega⟩
      · rw [List.length_append]
        omega
    · rintro ⟨⟨first, after, others, hfirst, hfits, hothers, rfl⟩, hall⟩
      rw [List.length_append] at hall
      have hfits' : size + first.length ≤ maxCount := by omega
      refine ⟨first, after, others, hfirst, hfits', ?_, rfl⟩
      exact (ih hfits').mpr ⟨((ih hfits).mp hothers).1, by omega⟩

/-- However a list is cut into lists, it gives the same. -/
theorem gather_flatten_eq_ok (lists : List (List (Eval Run (List String))))
    (hsize : size ≤ maxCount) :
    gather size lists.flatten run = .ok cards left ↔
      gather size (lists.map (gather 0)) run = .ok cards left := by
  induction lists generalizing size run cards with
  | nil => rfl
  | cons parts lists ih =>
    rw [List.flatten_cons, List.map_cons, gather_append_eq_ok, gather_cons_eq_ok]
    constructor
    · rintro ⟨front, between, back, hfront, hback, rfl⟩
      obtain ⟨halone, hfits⟩ := (gather_eq_ok_iff_alone hsize).mp hfront
      exact ⟨front, between, back, halone, hfits, (ih hfits).mp hback, rfl⟩
    · rintro ⟨front, between, back, halone, hfits, hback, rfl⟩
      have hfront := (gather_eq_ok_iff_alone hsize).mpr ⟨halone, hfits⟩
      exact ⟨front, between, back, hfront, (ih hfits).mpr hback, rfl⟩

end

namespace Deck

variable {names : Names} {run left : Run} {cards : List String}

/-- A list is built by gathering its decks. -/
theorem build_concat (parts : List Deck) :
    (concat parts).build names = gather 0 (parts.map (build names)) := by
  rw [build, builders_eq_map]

/-- Of two lists in a list, the second is built from where the first ends, and there must be room
for both. -/
theorem build_two_lists_eq_ok {xs ys : List Deck} :
    (concat [.concat xs, .concat ys]).build names run = .ok cards left ↔
      ∃ front between back, (concat xs).build names run = .ok front between ∧
        (concat ys).build names between = .ok back left ∧ cards = front ++ back ∧
        cards.length ≤ maxCount := by
  simp only [@build_concat names [.concat xs, .concat ys], List.map_cons, List.map_nil,
    gather_cons_eq_ok, gather_nil_eq_ok, Nat.zero_add]
  constructor
  · rintro ⟨front, between, _, hfront, -, ⟨back, _, _, hback, hall, ⟨rfl, rfl⟩, rfl⟩, rfl⟩
    rw [List.append_nil]
    exact ⟨front, between, back, hfront, hback, rfl, by rwa [List.length_append]⟩
  · rintro ⟨front, between, back, hfront, hback, rfl, hall⟩
    rw [List.length_append] at hall
    refine ⟨front, between, back, hfront, by omega, ⟨back, left, [], hback, hall, ⟨rfl, rfl⟩, ?_⟩,
      rfl⟩
    rw [List.append_nil]

end Deck

/-- A list of decks may be cut in two. The list and the list of its two parts succeed alike, and
then they give the same cards and leave the same run, so the same is known and the generator is at
the same place. The cards are those of the first part and then those of the second, which is built
from where the first ends, and the one thing asked of them together is that they are no more than
the largest count. -/
theorem a_list_may_be_cut_in_two (setup : Setup) (chain : Chain) (xs ys : List Deck)
    (run left : Run) (cards : List String) :
    ((Deck.concat (xs ++ ys)).build (.within setup chain) run = .ok cards left ↔
      (Deck.concat [.concat xs, .concat ys]).build (.within setup chain) run = .ok cards left) ∧
    ((Deck.concat (xs ++ ys)).build (.within setup chain) run = .ok cards left ↔
      ∃ front between back, (Deck.concat xs).build (.within setup chain) run = .ok front between ∧
        (Deck.concat ys).build (.within setup chain) between = .ok back left ∧
        cards = front ++ back ∧ cards.length ≤ maxCount) := by
  have cut : (Deck.concat (xs ++ ys)).build (.within setup chain) run = .ok cards left ↔
      (Deck.concat [.concat xs, .concat ys]).build (.within setup chain) run = .ok cards left := by
    have law : gather 0 _ run = .ok cards left ↔ _ := gather_flatten_eq_ok
      ([xs, ys].map fun ds => ds.map (Deck.build (.within setup chain))) (Nat.zero_le _)
    simpa only [Deck.build_concat, List.map_cons, List.map_nil, List.flatten_cons,
      List.flatten_nil, List.append_nil, List.map_append] using law
  exact ⟨cut, cut.trans Deck.build_two_lists_eq_ok⟩

end Dealer
