-- The algebra of sets. A set keeps its labels in the order in which they come first.
-- Its parts are worked out one after the other, and an operation makes of them what
-- it would make of all of them at once: pair by pair comes to the same.
import Dealer.Proofs.Meaning

namespace Dealer

/-! ## First occurrences -/

theorem distinctFrom_eq_eraseDups (seen : Std.HashSet String) (items : List String) :
    distinctFrom seen items = (items.filter fun a => !seen.contains a).eraseDups := by
  induction items generalizing seen with
  | nil => rfl
  | cons a items ih =>
    rw [distinctFrom]
    split
    · rename_i h
      rw [List.filter_cons_of_neg (by simp [h]), ih]
    · rename_i h
      have later : (items.filter fun b => !(seen.insert a).contains b) =
          (items.filter fun b => !seen.contains b).filter fun b => !b == a := by
        rw [List.filter_filter]
        congr 1
        funext b
        rw [Std.HashSet.contains_insert, Bool.not_or, Bool.beq_comm (a := a)]
      rw [List.filter_cons_of_pos (by simp [h]), List.eraseDups_cons, ih, later]

/-- The first of equal items is the one that stays. -/
theorem distinct_eq_eraseDups (items : List String) : distinct items = items.eraseDups := by
  rw [distinct, distinctFrom_eq_eraseDups, List.filter_eq_self.mpr]
  simp

/-- Items that were cleared of repetitions before are cleared with others as they were. -/
theorem eraseDups_eraseDups_append (items others : List String) :
    (items.eraseDups ++ others).eraseDups = (items ++ others).eraseDups := by
  have again : items.eraseDups.eraseDups = items.eraseDups := by
    rw [← distinct_eq_eraseDups, ← distinct_eq_eraseDups, distinct_of_nodup (nodup_distinct items)]
  have others : others.removeAll items.eraseDups = others.removeAll items := by
    simp [List.removeAll]
  rw [List.eraseDups_append, List.eraseDups_append, again, others]

/-! ## Operations on many sets -/

namespace SetOp

/-- What an operation makes of sets, all at once: the labels of all of them, each where it comes
first, or those labels of the first set that are in all others, or in none. -/
def combine : SetOp → List (List String) → List String
  | .union, sets => sets.flatten.eraseDups
  | .intersect, [] => []
  | .intersect, first :: others => first.filter fun l => ∀ set ∈ others, l ∈ set
  | .except, [] => []
  | .except, first :: others => first.filter fun l => ∀ set ∈ others, l ∉ set

/-- An operation repeats no label that its first set does not repeat. -/
theorem apply_nodup (op : SetOp) {first : List String} (h : first.Nodup) (second : List String) :
    (op.apply first second).Nodup := by
  cases op with
  | union => exact nodup_distinct _
  | intersect => exact h.filter _
  | except => exact h.filter _

theorem foldl_union {first : List String} (h : first.Nodup) (others : List (List String)) :
    others.foldl SetOp.union.apply first = (first ++ others.flatten).eraseDups := by
  induction others generalizing first with
  | nil =>
    rw [List.foldl_nil, List.flatten_nil, List.append_nil, ← distinct_eq_eraseDups,
      distinct_of_nodup h]
  | cons second others ih =>
    rw [List.foldl_cons, ih (apply_nodup .union h second), List.flatten_cons, ← List.append_assoc,
      ← eraseDups_eraseDups_append (first ++ second), apply, distinct_eq_eraseDups]

theorem foldl_intersect (first : List String) (others : List (List String)) :
    others.foldl SetOp.intersect.apply first =
      first.filter fun l => ∀ set ∈ others, l ∈ set := by
  induction others generalizing first with
  | nil => exact (List.filter_eq_self.mpr (by simp)).symm
  | cons second others ih =>
    rw [List.foldl_cons, ih, apply, List.filter_filter]
    simp [Bool.and_comm]

theorem foldl_except (first : List String) (others : List (List String)) :
    others.foldl SetOp.except.apply first =
      first.filter fun l => ∀ set ∈ others, l ∉ set := by
  induction others generalizing first with
  | nil => exact (List.filter_eq_self.mpr (by simp)).symm
  | cons second others ih =>
    rw [List.foldl_cons, ih, apply, List.filter_filter]
    simp [Bool.and_comm]

/-- Pair by pair, an operation makes of sets what it makes of all at once. -/
theorem foldl_apply (op : SetOp) {first : List String} (h : first.Nodup)
    (others : List (List String)) : others.foldl op.apply first = op.combine (first :: others) := by
  cases op with
  | union => rw [foldl_union h, combine, List.flatten_cons]
  | intersect => rw [foldl_intersect, combine]
  | except => rw [foldl_except, combine]

end SetOp

namespace LabelSet

/-! ## Parts in turn -/

/-- Sets are worked out one after the other, each once: the first from where the run stands, and
every other from where the one before it ends. -/
inductive InTurn (look : DeckLook) : List LabelSet → Run → List (List String) → Run → Prop
  | nil {run : Run} : InTurn look [] run [] run
  | cons {s : LabelSet} {ss : List LabelSet} {run after left : Run} {labels : List String}
      {others : List (List String)} (hs : s.eval look run = .ok labels after)
      (hss : InTurn look ss after others left) : InTurn look (s :: ss) run (labels :: others) left

variable {look : DeckLook} {run left : Run} {labels : List String}

/-- An operation goes on through its parts in turn, and gives something where all of them do. -/
theorem evalFrom_eq_ok {op : SetOp} {first : List String} {ss : List LabelSet} :
    evalFrom look op first ss run = .ok labels left ↔
      ∃ others, InTurn look ss run others left ∧ labels = others.foldl op.apply first := by
  induction ss generalizing first run with
  | nil =>
    rw [evalFrom]
    constructor
    · intro h
      cases h
      exact ⟨[], .nil, rfl⟩
    · rintro ⟨_, ⟨⟩, rfl⟩
      rfl
  | cons s ss ih =>
    rw [evalFrom]
    constructor
    · intro h
      obtain ⟨second, after, hsecond, hrest⟩ := Eval.exists_of_bind_ok h
      obtain ⟨others, hothers, hlabels⟩ := ih.mp hrest
      exact ⟨second :: others, .cons hsecond hothers, hlabels⟩
    · rintro ⟨_, hparts, hlabels⟩
      cases hparts with
      | cons hs hss =>
        rw [Eval.bind_ok hs]
        exact ih.mpr ⟨_, hss, hlabels⟩

/-! ## No label twice -/

mutual

/-- A set holds no label twice. Where an operation only takes away, this comes from its first
part. -/
theorem eval_nodup : ∀ (s : LabelSet) {run left : Run} {labels : List String},
    s.eval look run = .ok labels left → labels.Nodup
  | .label s, run, left, labels, h => by
    rw [eval] at h
    obtain ⟨cards, after, -, hend⟩ := Eval.exists_of_bind_ok h
    cases hend
    exact nodup_distinct cards
  | .list parts, run, left, labels, h => by
    rw [eval] at h
    exact evalFrom_nodup .union parts List.nodup_nil h
  | .fold op parts, run, left, labels, h => by
    rw [eval] at h
    exact evalFold_nodup op parts h

theorem evalFold_nodup (op : SetOp) : ∀ (parts : List LabelSet) {run left : Run}
    {labels : List String}, evalFold look op parts run = .ok labels left → labels.Nodup
  | [], run, left, labels, h => by
    rw [evalFold] at h
    cases h
    exact List.nodup_nil
  | s :: ss, run, left, labels, h => by
    rw [evalFold] at h
    obtain ⟨first, after, hfirst, hrest⟩ := Eval.exists_of_bind_ok h
    exact evalFrom_nodup op ss (eval_nodup s hfirst) hrest

theorem evalFrom_nodup (op : SetOp) : ∀ (parts : List LabelSet) {first : List String}
    {run left : Run} {labels : List String}, first.Nodup →
      evalFrom look op first parts run = .ok labels left → labels.Nodup
  | [], first, run, left, labels, hfirst, h => by
    rw [evalFrom] at h
    cases h
    exact hfirst
  | s :: ss, first, run, left, labels, hfirst, h => by
    rw [evalFrom] at h
    obtain ⟨second, after, -, hrest⟩ := Eval.exists_of_bind_ok h
    exact evalFrom_nodup op ss (op.apply_nodup hfirst second) hrest

end

/-! ## The labels of each form -/

/-- A label gives the cards that it stands for, each once. -/
theorem eval_label_eq_ok {s : String} :
    (label s).eval look run = .ok labels left ↔
      ∃ cards, cardsOf look s run = .ok cards left ∧ labels = cards.eraseDups := by
  rw [eval]
  constructor
  · intro h
    obtain ⟨cards, after, hcards, hend⟩ := Eval.exists_of_bind_ok h
    cases hend
    exact ⟨cards, hcards, distinct_eq_eraseDups cards⟩
  · rintro ⟨cards, hcards, rfl⟩
    rw [Eval.bind_ok hcards, ← distinct_eq_eraseDups]
    rfl

theorem eval_list_eq_ok {parts : List LabelSet} :
    (list parts).eval look run = .ok labels left ↔
      ∃ sets, InTurn look parts run sets left ∧ labels = sets.flatten.eraseDups := by
  simp only [eval, evalFrom_eq_ok, SetOp.foldl_union List.nodup_nil, List.nil_append]

theorem evalFold_eq_ok {op : SetOp} {parts : List LabelSet} :
    evalFold look op parts run = .ok labels left ↔
      ∃ sets, InTurn look parts run sets left ∧ labels = op.combine sets := by
  cases parts with
  | nil =>
    rw [evalFold]
    constructor
    · intro h
      cases h
      exact ⟨[], .nil, by cases op <;> rfl⟩
    · rintro ⟨_, ⟨⟩, rfl⟩
      cases op <;> rfl
  | cons s ss =>
    rw [evalFold]
    constructor
    · intro h
      obtain ⟨first, after, hfirst, hrest⟩ := Eval.exists_of_bind_ok h
      obtain ⟨others, hothers, rfl⟩ := evalFrom_eq_ok.mp hrest
      exact ⟨first :: others, .cons hfirst hothers, op.foldl_apply (eval_nodup s hfirst) others⟩
    · rintro ⟨_, hparts, rfl⟩
      cases hparts with
      | cons hs hss =>
        rw [Eval.bind_ok hs]
        exact evalFrom_eq_ok.mpr ⟨_, hss, (op.foldl_apply (eval_nodup s hs) _).symm⟩

/-! ## The meaning of a set -/

/-- What the labels of a set have to do with the labels of its parts, from the run before to the
run after. -/
def Means (setup : Setup) (chain : Chain) (run : Run) (labels : List String) (left : Run) :
    LabelSet → Prop
  | .label s =>
    (∃ d cards, setup.get? (normalize s) = some d ∧
      left.memo.get? (normalize s) = some (.deck cards) ∧ labels = cards.eraseDups) ∨
    (setup.get? (normalize s) = none ∧ labels = [normalize s] ∧ left = run)
  | .list parts =>
    ∃ sets, InTurn (deckOf setup chain) parts run sets left ∧ labels = sets.flatten.eraseDups
  | .fold op parts =>
    ∃ sets, InTurn (deckOf setup chain) parts run sets left ∧ labels = op.combine sets

variable {setup : Setup} {chain : Chain}

theorem label_means {s : String} (hrun : Underway setup run.memo)
    (h : (label s).eval (deckOf setup chain) run = .ok labels left) :
    (label s).Means setup chain run labels left := by
  obtain ⟨reached, ⟨history, rfl⟩, hgrown⟩ := hrun
  have grown : Grows setup [] [] run.memo := (Memo.after_grows setup [] history).trans hgrown
  obtain ⟨cards, hcards, rfl⟩ := eval_label_eq_ok.mp h
  -- The cards are those of the deck that the label stands for.
  have built : (Deck.label s).build (.within setup chain) run = .ok cards left := by
    rw [Deck.build]
    exact hcards
  rcases Deck.label_means grown built with ⟨d, hd, hknown⟩ | ⟨habsent, rfl, rfl⟩
  · exact Or.inl ⟨d, cards, hd, hknown, rfl⟩
  · exact Or.inr ⟨habsent, rfl, rfl⟩

end LabelSet

/-- A set holds no label twice, and its labels are what its expression says of its parts. A label
is the deck of its parameter without repetitions, or itself. A list and a union hold the labels of
all parts, each where it comes first; the other operations keep, in their order, those labels of
the first part that are in all other parts, or in none; and where there are no parts there are no
labels. Every part is worked out once, from the left to the right. This holds of every expression,
so it holds of the parts as well. -/
theorem a_set_is_what_its_operation_makes_of_its_parts (setup : Setup) (chain : Chain)
    (s : LabelSet) {run left : Run} {labels : List String} (hrun : Underway setup run.memo)
    (h : s.eval (deckOf setup chain) run = .ok labels left) :
    labels.Nodup ∧ s.Means setup chain run labels left := by
  refine ⟨LabelSet.eval_nodup s h, ?_⟩
  cases s with
  | label s => exact LabelSet.label_means hrun h
  | list parts => exact LabelSet.eval_list_eq_ok.mp h
  | fold op parts =>
    rw [LabelSet.eval] at h
    exact LabelSet.evalFold_eq_ok.mp h

/-- A setup with a bag of cards, one of them twice. -/
def bag : Setup := ⟨[("bag", .list [.text "x", .text "y", .text "x", .text "z"])]⟩

/-- The cards of the bag stay in their order, each once, and the first one is taken away. -/
theorem a_bag_without_a_label :
    Underway bag [] ∧
      (LabelSet.fold .except [.label "bag", .list [.label " y "]]).eval (deckOf bag [])
          ⟨[], twoWords⟩ =
        .ok ["x", "z"] ⟨[("bag", .deck ["x", "y", "x", "z"])], twoWords⟩ ∧
      (LabelSet.fold .except [.label "bag", .list [.label " y "]]).Means bag [] ⟨[], twoWords⟩
        ["x", "z"] ⟨[("bag", .deck ["x", "y", "x", "z"])], twoWords⟩ := by
  have reached : Underway bag [] := ⟨[], ⟨[], rfl⟩, Grows.refl []⟩
  have cards : cardsOf (deckOf bag []) "bag" ⟨[], twoWords⟩ =
      .ok ["x", "y", "x", "z"] ⟨[("bag", .deck ["x", "y", "x", "z"])], twoWords⟩ := by
    simp only [deckOf_eq_lookUp bag []]
    decide +kernel
  have card : cardsOf (deckOf bag []) " y " ⟨[("bag", .deck ["x", "y", "x", "z"])], twoWords⟩ =
      .ok ["y"] ⟨[("bag", .deck ["x", "y", "x", "z"])], twoWords⟩ := by
    simp only [deckOf_eq_lookUp bag []]
    decide +kernel
  have first := LabelSet.eval_label_eq_ok.mpr ⟨_, cards, rfl⟩
  have second := LabelSet.eval_list_eq_ok.mpr
    ⟨_, .cons (LabelSet.eval_label_eq_ok.mpr ⟨_, card, rfl⟩) .nil, rfl⟩
  have worked : (LabelSet.fold .except [.label "bag", .list [.label " y "]]).eval (deckOf bag [])
      ⟨[], twoWords⟩ =
        .ok ["x", "z"] ⟨[("bag", .deck ["x", "y", "x", "z"])], twoWords⟩ := by
    rw [LabelSet.eval]
    exact LabelSet.evalFold_eq_ok.mpr ⟨_, .cons first (.cons second .nil), by decide⟩
  exact ⟨reached, worked,
    (a_set_is_what_its_operation_makes_of_its_parts bag [] _ reached worked).2⟩

end Dealer
