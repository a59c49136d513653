-- Sizes that can be read off. What a deck is made of bounds its size, through its
-- parameters too. So a union of a few small decks is small, although nothing checks it.
import Dealer.Proofs.SetAlgebra
import Dealer.Proofs.Sizes

namespace Dealer

/-! ## Bounds -/

mutual

/-- A deck that is built has at most so many cards, as its expression and its parameters say. -/
inductive Deck.AtMost (setup : Setup) : Deck → Nat → Prop
  /-- A label that no parameter has stands for itself. -/
  | plain {s : String} (hs : setup.get? (normalize s) = none) : AtMost setup (.label s) 1
  | param {s : String} {d : Document} {deck : Deck} {n : Nat}
      (hd : setup.get? (normalize s) = some d) (hdeck : Deck.ofDocument? d = some deck)
      (h : AtMost setup deck n) : AtMost setup (.label s) n
  | concat {parts : List Deck} {n : Nat} (h : AllAtMost setup parts n) :
      AtMost setup (.concat parts) n
  /-- No more is taken of a deck than there is. -/
  | choose {count : Quantity} {source : Deck} {n : Nat} (h : AtMost setup source n) :
      AtMost setup (.choose count source) n
  | first {count : Quantity} {source : Deck} {n : Nat} (h : AtMost setup source n) :
      AtMost setup (.first count source) n
  | last {count : Quantity} {source : Deck} {n : Nat} (h : AtMost setup source n) :
      AtMost setup (.last count source) n
  | cross {left right : Deck} {separator : Option String} {k n : Nat} (hl : AtMost setup left k)
      (hr : AtMost setup right n) : AtMost setup (.cross left right separator) (k * n)
  | zip {left right : Deck} {separator : Option String} {k n : Nat} (hl : AtMost setup left k)
      (hr : AtMost setup right n) : AtMost setup (.zip left right separator) (max k n)
  | cond {test : Flag} {yes no : Deck} {k n : Nat} (hyes : AtMost setup yes k)
      (hno : AtMost setup no n) : AtMost setup (.cond test yes (some no)) (max k n)
  | condAlone {test : Flag} {yes : Deck} {n : Nat} (h : AtMost setup yes n) :
      AtMost setup (.cond test yes none) n
  /-- An operation on sets keeps labels that lead into it, and adds none. -/
  | set {op : SetOp} {parts : List LabelSet} {n : Nat}
      (h : AllAtMost setup ((LabelSet.leadsOfFold op parts).map .label) n) :
      AtMost setup (.set op parts) n
  | checked {d : Deck} (h : ¬ d.Unchecked setup) : AtMost setup d maxCount

/-- Decks that are joined have at most so many cards. -/
inductive Deck.AllAtMost (setup : Setup) : List Deck → Nat → Prop
  | nil : AllAtMost setup [] 0
  | cons {d : Deck} {ds : List Deck} {k n : Nat} (hd : AtMost setup d k)
      (hds : AllAtMost setup ds n) : AllAtMost setup (d :: ds) (k + n)

end

/-- What is known of the deck of a parameter: it is within its bounds. -/
def Setup.Bounds (setup : Setup) (name : String) (cards : List String) : Prop :=
  ∃ d deck, setup.get? name = some d ∧ Deck.ofDocument? d = some deck ∧
    ∀ n, deck.AtMost setup n → cards.length ≤ n

section

variable {setup : Setup} {chain : Chain}

theorem DecksKnown.sizesKnown {m : Memo} (h : DecksKnown setup.Bounds m) : SizesKnown setup m := by
  intro name cards hcards
  obtain ⟨d, deck, hd, hdeck, hle⟩ := h name cards hcards
  refine ⟨by rw [hd]; simp, fun hname => hle _ (.checked fun hun => hname ?_)⟩
  exact ⟨d, deck, hd, hdeck, hun⟩

/-- A label that is built is within its bounds. -/
theorem cardsOf_le_of_atMost (hfinds : FindsDecks setup.Bounds (deckOf setup chain)) {s : String}
    {n : Nat} (h : (Deck.label s).AtMost setup n) {run t : Run} {cards : List String}
    (hrun : DecksKnown setup.Bounds run.memo)
    (hcards : cardsOf (deckOf setup chain) s run = .ok cards t) : cards.length ≤ n := by
  have hchecked (hs : ¬ (Deck.label s).Unchecked setup) : cards.length ≤ maxCount :=
    Deck.build_le (deckOf_sized setup chain).within_keep (deckOf_sized setup chain) (.label s)
      hrun.sizesKnown hs (by rwa [Deck.build])
  obtain ⟨found, after, hfound, hend⟩ := Eval.exists_of_bind_ok hcards
  cases found with
  | some deck =>
    cases hend
    obtain ⟨d, deck, hd, hdeck, hle⟩ := hfinds.found _ _ _ _ hrun hfound
    cases h with
    | plain hs =>
      rw [hs] at hd
      cases hd
    | param hd' hdeck' h =>
      cases hd'.symm.trans hd
      cases hdeck'.symm.trans hdeck
      exact hle n h
    | checked h => exact hchecked h
  | none =>
    cases hend
    rw [deckOf_eq] at hfound
    cases Parameter.looksUp hfound with
    | absent hm hc hs =>
      cases h with
      | plain hs => exact le_rfl
      | param hd hdeck h =>
        rw [hs] at hd
        cases hd
      | checked h => exact hchecked h

theorem Deck.AllAtMost.labelsFit (hfinds : FindsDecks setup.Bounds (deckOf setup chain))
    {labels : List String} {n : Nat} (h : AllAtMost setup (labels.map .label) n) :
    LabelsFit (DecksKnown setup.Bounds) (deckOf setup chain) labels n := by
  induction labels generalizing n with
  | nil =>
    cases h
    exact .nil
  | cons l labels ih =>
    cases h with
    | cons hl hls =>
      exact .cons (fun run cards t hrun => cardsOf_le_of_atMost hfinds hl hrun) (ih hls)

mutual

/-- A deck that is built is within its bounds. -/
theorem Deck.AtMost.build_le (hfinds : FindsDecks setup.Bounds (deckOf setup chain)) :
    ∀ {d : Deck} {n : Nat}, d.AtMost setup n → ∀ {run final : Run} {cards : List String},
      DecksKnown setup.Bounds run.memo → d.build (.within setup chain) run = .ok cards final →
      cards.length ≤ n
  | _, _, .plain hs, run, final, cards, hrun, h => by
    rw [Deck.build] at h
    exact cardsOf_le_of_atMost hfinds (.plain hs) hrun h
  | _, _, .param hd hdeck hn, run, final, cards, hrun, h => by
    rw [Deck.build] at h
    exact cardsOf_le_of_atMost hfinds (.param hd hdeck hn) hrun h
  | _, _, .concat hn, run, final, cards, hrun, h => by
    rw [Deck.build] at h
    exact hn.gather_le hfinds hrun h
  | _, _, .choose hn, run, final, cards, hrun, h => by
    obtain ⟨amount, S, after, ⟨between, hcount, hsource⟩, hchosen, -⟩ := Deck.choose_means h
    have hbetween := (hfinds.within_keep.have.count .choose _).ok hrun hcount
    exact Nat.le_trans hchosen.length_le (hn.build_le hfinds hbetween hsource)
  | _, _, .first hn, run, final, cards, hrun, h => by
    obtain ⟨amount, S, ⟨between, hcount, hsource⟩, hprefix, -⟩ := Deck.first_means h
    have hbetween := (hfinds.within_keep.have.count .first _).ok hrun hcount
    exact Nat.le_trans hprefix.length_le (hn.build_le hfinds hbetween hsource)
  | _, _, .last hn, run, final, cards, hrun, h => by
    obtain ⟨amount, S, ⟨between, hcount, hsource⟩, hsuffix, -⟩ := Deck.last_means h
    have hbetween := (hfinds.within_keep.have.count .last _).ok hrun hcount
    exact Nat.le_trans hsuffix.length_le (hn.build_le hfinds hbetween hsource)
  | _, _, .cross hl hr, run, final, cards, hrun, h => by
    rw [Deck.build_cross] at h
    obtain ⟨A, B, after, ⟨between, hleft, hright⟩, hrest⟩ := Deck.bothBuilt_of_bind h
    obtain ⟨_, same, hrefuse, hend⟩ := Eval.exists_of_bind_ok hrest
    have hbetween := (hfinds.within_keep.build _).ok hrun hleft
    rw [(shuffled_ok hend).1.length_eq, length_crossPairs]
    exact Nat.mul_le_mul (hl.build_le hfinds hrun hleft) (hr.build_le hfinds hbetween hright)
  | _, _, .zip hl hr, run, final, cards, hrun, h => by
    rw [Deck.build] at h
    obtain ⟨A, B, after, ⟨between, hleft, hright⟩, hrest⟩ := Deck.bothBuilt_of_bind h
    obtain ⟨A', _, hA, hrest⟩ := Eval.exists_of_bind_ok hrest
    obtain ⟨B', _, hB, hend⟩ := Eval.exists_of_bind_ok hrest
    cases hend
    have hbetween := (hfinds.within_keep.build _).ok hrun hleft
    rw [length_zipPairs, (shuffled_ok hA).1.length_eq, (shuffled_ok hB).1.length_eq]
    exact max_le_max (hl.build_le hfinds hrun hleft) (hr.build_le hfinds hbetween hright)
  | _, _, .cond hyes hno, run, final, cards, hrun, h => by
    obtain ⟨b, after, htest, hend⟩ := Deck.cond_means h
    have hafter := (hfinds.within_keep.have.flag _).ok hrun htest
    cases b with
    | true => exact le_max_of_le_left (hyes.build_le hfinds hafter hend)
    | false => exact le_max_of_le_right (hno.build_le hfinds hafter hend)
  | _, _, .condAlone hyes, run, final, cards, hrun, h => by
    obtain ⟨b, after, htest, hend⟩ := Deck.cond_means h
    have hafter := (hfinds.within_keep.have.flag _).ok hrun htest
    cases b with
    | true => exact hyes.build_le hfinds hafter hend
    | false =>
      rw [hend.1]
      exact Nat.zero_le _
  | _, _, .set hn, run, final, cards, hrun, h => by
    rw [Deck.build] at h
    exact LabelSet.evalFold_le hfinds.keeps _ _ hrun (hn.labelsFit hfinds) h
  | d, _, .checked hd, run, final, cards, hrun, h => by
    have hsized := deckOf_sized setup chain
    exact d.build_le hsized.within_keep hsized hrun.sizesKnown hd h

theorem Deck.AllAtMost.gather_le (hfinds : FindsDecks setup.Bounds (deckOf setup chain)) :
    ∀ {ds : List Deck} {n : Nat}, AllAtMost setup ds n →
      ∀ {size : Nat} {run final : Run} {cards : List String}, DecksKnown setup.Bounds run.memo →
        gather size (Deck.builders (.within setup chain) ds) run = .ok cards final →
        cards.length ≤ n
  | _, _, .nil, size, run, final, cards, _, h => by
    cases h
    exact Nat.zero_le _
  | _, _, .cons hd hds, size, run, final, cards, hrun, h => by
    obtain ⟨first, after, hfirst, hrest⟩ := Eval.exists_of_bind_ok h
    obtain ⟨_, same, hcheck, hrest⟩ := Eval.exists_of_bind_ok hrest
    obtain ⟨others, final, hothers, hend⟩ := Eval.exists_of_bind_ok hrest
    cases hend
    rw [Eval.ofExcept_ok hcheck] at hothers
    have hafter := (hfinds.within_keep.build _).ok hrun hfirst
    rw [List.length_append]
    exact Nat.add_le_add (hd.build_le hfinds hrun hfirst) (hds.gather_le hfinds hafter hothers)

end

theorem deckOf_findsBounds (setup : Setup) (chain : Chain) :
    FindsDecks setup.Bounds (deckOf setup chain) :=
  deckOf_findsDecks (fun _ _ d deck h hd hdeck _ _ _ hs hok =>
    ⟨d, deck, hd, hdeck, fun _ hn => hn.build_le h hs hok⟩) chain

end

/-- A deck that is built has no more cards than the largest count, whatever it is made of, unless
its size comes from an operation on sets. Even then it has no more than can be read off what the
operation is made of, so it is too large only where enough labels lead into the operation. -/
theorem only_sets_outgrow_the_largest_count (setup : Setup) (d : Deck) {run final : Run}
    {cards : List String} (hrun : Reached setup run.memo)
    (h : d.build (.of setup) run = .ok cards final) :
    (cards.length ≤ maxCount ∨ d.Unchecked setup) ∧
      ∀ n, d.AtMost setup n → cards.length ≤ n := by
  have hfinds := deckOf_findsBounds setup []
  have hknown := hrun.decksKnown hfinds
  have bounded (n : Nat) (hn : d.AtMost setup n) : cards.length ≤ n :=
    hn.build_le hfinds hknown h
  refine ⟨?_, bounded⟩
  by_cases hd : d.Unchecked setup
  · exact Or.inr hd
  · exact Or.inl (bounded _ (.checked hd))

/-- A choice from two cards and one more label are three cards at most, although a parameter may
stand for as many cards as there can be. -/
theorem a_small_parameter_leads_into_a_small_union :
    Reached oneOfTwo [] ∧
      (Deck.set .union [.label "pick", .label "x"]).build (.of oneOfTwo) ⟨[], twoWords⟩ =
        .ok ["b", "x"] ⟨[("pick", .deck ["b"])], { twoWords with pending := [5] }⟩ ∧
      (Deck.set .union [.label "pick", .label "x"]).AtMost oneOfTwo 3 ∧ ["b", "x"].length ≤ 3 := by
  have reached : Reached oneOfTwo [] := ⟨[], rfl⟩
  have chosen : cardsOf (deckOf oneOfTwo []) "pick" ⟨[], twoWords⟩ =
      .ok ["b"] ⟨[("pick", .deck ["b"])], { twoWords with pending := [5] }⟩ := by
    simp only [deckOf_eq_lookUp oneOfTwo []]
    decide +kernel
  have plain : cardsOf (deckOf oneOfTwo []) "x"
      ⟨[("pick", .deck ["b"])], { twoWords with pending := [5] }⟩ =
        .ok ["x"] ⟨[("pick", .deck ["b"])], { twoWords with pending := [5] }⟩ := by
    simp only [deckOf_eq_lookUp oneOfTwo []]
    decide +kernel
  have built : (Deck.set .union [.label "pick", .label "x"]).build (.of oneOfTwo) ⟨[], twoWords⟩ =
      .ok ["b", "x"] ⟨[("pick", .deck ["b"])], { twoWords with pending := [5] }⟩ := by
    rw [Deck.build]
    have first := LabelSet.eval_label_eq_ok.mpr ⟨_, chosen, rfl⟩
    have second := LabelSet.eval_label_eq_ok.mpr ⟨_, plain, rfl⟩
    exact LabelSet.evalFold_eq_ok.mpr ⟨_, .cons first (.cons second .nil), by decide⟩
  have small : (Deck.set .union [.label "pick", .label "x"]).AtMost oneOfTwo 3 := by
    have cards : (Deck.concat [.label "a", .label "b"]).AtMost oneOfTwo 2 :=
      .concat (.cons (.plain rfl) (.cons (.plain rfl) .nil))
    exact .set (.cons (.param rfl rfl (.choose cards)) (.cons (.plain rfl) .nil))
  exact ⟨reached, built, small,
    (only_sets_outgrow_the_largest_count oneOfTwo _ reached built).2 3 small⟩

/-! ## A union that is too large -/

namespace LabelSet

variable {look : DeckLook} {run : Run}

theorem inTurn_labels {labels : List String}
    (hplain : ∀ s ∈ labels, cardsOf look s run = .ok [s] run) :
    InTurn look (labels.map .label) run (labels.map fun s => [s]) run := by
  induction labels with
  | nil => exact .nil
  | cons s labels ih =>
    have hs := eval_label_eq_ok.mpr ⟨[s], hplain s List.mem_cons_self, rfl⟩
    exact .cons hs (ih fun s hs => hplain s (List.mem_cons_of_mem _ hs))

/-- Labels that no parameter has, all different, are the labels of their union. -/
theorem evalFold_union_labels {labels : List String}
    (hplain : ∀ s ∈ labels, cardsOf look s run = .ok [s] run) (h : labels.Nodup) :
    evalFold look .union (labels.map .label) run = .ok labels run := by
  refine evalFold_eq_ok.mpr ⟨_, inTurn_labels hplain, ?_⟩
  rw [SetOp.combine, ← List.flatMap_def, List.flatMap_singleton', ← distinct_eq_eraseDups,
    distinct_of_nodup h]

end LabelSet

/-- A label of so many letters, and one more. -/
def letters (n : Nat) : String := String.ofList (List.replicate (n + 1) 'a')

/-- The union of so many labels, each one letter longer than the one before. -/
def longUnion (n : Nat) : Deck := .set .union (((List.range n).map letters).map .label)

theorem longUnion_build (n : Nat) (g : Generator) :
    (longUnion n).build (.of .empty) ⟨[], g⟩ = .ok ((List.range n).map letters) ⟨[], g⟩ := by
  have plain : ∀ s ∈ (List.range n).map letters,
      cardsOf (deckOf .empty []) s ⟨[], g⟩ = .ok [s] ⟨[], g⟩ := by
    intro s hs
    obtain ⟨i, -, rfl⟩ := List.mem_map.mp hs
    have chars : (letters i).toList = List.replicate (i + 1) 'a' := String.toList_ofList
    have name : normalize (letters i) = letters i := by
      refine (normalize_eq_self_iff _).mpr (neat_of_no_blank fun c hc => ?_)
      rw [chars] at hc
      rw [List.eq_of_mem_replicate hc]
      decide
    have absent : deckOf .empty [] (letters i) ⟨[], g⟩ = .ok none ⟨[], g⟩ := by
      rw [deckOf_eq]
      exact Parameter.lookUp_of_absent rfl List.not_mem_nil rfl
    rw [cardsOf, name, Eval.bind_ok absent]
    rfl
  have different : ((List.range n).map letters).Nodup := by
    rw [List.nodup_iff_pairwise_ne, List.pairwise_map]
    refine List.nodup_range.imp fun {i j} hne heq => hne ?_
    have lengths := congrArg (fun s => s.toList.length) heq
    simpa [letters] using lengths
  rw [longUnion, Deck.build]
  exact LabelSet.evalFold_union_labels plain different

/-- A union of one label more than the largest count is a deck of as many cards. -/
theorem a_long_union_is_larger_than_the_largest_count :
    Reached .empty [] ∧
      ∃ cards, (longUnion (maxCount + 1)).build (.of .empty) ⟨[], .ofSeed 1⟩ =
          .ok cards ⟨[], .ofSeed 1⟩ ∧ maxCount < cards.length := by
  refine ⟨⟨[], rfl⟩, _, longUnion_build (maxCount + 1) (.ofSeed 1), ?_⟩
  rw [List.length_map, List.length_range]
  exact Nat.lt_succ_self maxCount

end Dealer
