-- What a deck means. When a deck is built, its cards are what its expression says
-- of the decks that its parts gave: the same cards in another order, cards at
-- different places, cards that occur there, and as many of them as were asked for.
import Dealer.Proofs.Answers
import Dealer.Proofs.Choices

namespace Dealer

open Generator (Chosen)

/-! ## What a draw leaves -/

/-- Something may have been drawn in between, and nothing else has happened. -/
def Drawn (before after : Run) : Prop := after.memo = before.memo

theorem Eval.draw_ok {α : Type} {x : Generator → α × Generator} {run left : Run} {a : α}
    (h : Eval.draw x run = .ok a left) : a = (x run.generator).1 ∧ Drawn run left := by
  unfold Eval.draw at h
  cases h
  exact ⟨rfl, rfl⟩

theorem Eval.refuse_ok {σ : Type} {p : Prop} [Decidable p] {e : EvalError} {s t : σ}
    (h : Eval.refuse p e s = .ok () t) : ¬p ∧ t = s := by
  unfold Eval.refuse at h
  split at h
  · cases h
  · rename_i hp
    cases h
    exact ⟨hp, rfl⟩

theorem Eval.ofExcept_ok {σ α : Type} {x : Except EvalError α} {s t : σ} {a : α}
    (h : Eval.ofExcept x s = .ok a t) : t = s := by
  cases x with
  | ok b => cases h; rfl
  | error e => cases h

theorem chooseExactly_ok {what : Counted} {source cards : List String} {n : Nat} {run left : Run}
    (h : chooseExactly what source n run = .ok cards left) :
    Chosen source n cards ∧ Drawn run left := by
  unfold chooseExactly at h
  split at h
  · cases h
  · rename_i hn
    obtain ⟨hcards, hdrawn⟩ := Eval.draw_ok h
    have chosen := Generator.sample_chosen source n run.generator
    rw [Nat.min_eq_left (Nat.le_of_not_lt hn), ← hcards] at chosen
    exact ⟨chosen, hdrawn⟩

theorem shuffled_ok {α : Type} {items cards : List α} {run left : Run}
    (h : shuffled items run = .ok cards left) : cards.Perm items ∧ Drawn run left := by
  obtain ⟨hcards, hdrawn⟩ := Eval.draw_ok h
  rw [hcards]
  exact ⟨Generator.shuffle_perm items _, hdrawn⟩

theorem pickPlace_ok {what : Counted} {n i : Nat} {run left : Run}
    (h : pickPlace what n run = .ok i left) : i < n ∧ Drawn run left := by
  obtain ⟨place, after, hdraw, h⟩ := Eval.exists_of_bind_ok h
  obtain ⟨hplace, hdrawn⟩ := Eval.draw_ok hdraw
  cases place with
  | none => cases h
  | some j =>
    cases h
    exact ⟨Generator.pick_lt hplace.symm, hdrawn⟩

/-- So many cards, each of which occurs in a deck. -/
def Picked (source : List String) (n : Nat) (cards : List String) : Prop :=
  cards.length = n ∧ ∀ card ∈ cards, card ∈ source

theorem drawCards_ok {what : Counted} {source cards : List String} {n : Nat} {run left : Run}
    (h : drawCards what source.toArray n run = .ok cards left) :
    Picked source n cards ∧ Drawn run left := by
  induction n generalizing run left cards with
  | zero =>
    cases h
    exact ⟨⟨rfl, fun card hcard => by cases hcard⟩, rfl⟩
  | succ n ih =>
    obtain ⟨i, after, hpick, hrest⟩ := Eval.exists_of_bind_ok h
    obtain ⟨others, final, hothers, hend⟩ := Eval.exists_of_bind_ok hrest
    obtain ⟨hi, hdrawn⟩ := pickPlace_ok hpick
    obtain ⟨⟨hlength, hmem⟩, hdrawn'⟩ := ih hothers
    rw [List.size_toArray] at hi
    rw [List.getElem?_toArray, List.getElem?_eq_getElem hi, Option.toList_some,
      List.singleton_append] at hend
    cases hend
    refine ⟨⟨by rw [List.length_cons, hlength], fun card hcard => ?_⟩, hdrawn'.trans hdrawn⟩
    rcases List.mem_cons.mp hcard with rfl | hcard
    · exact List.getElem_mem hi
    · exact hmem card hcard

/-! ## Decks in turn -/

/-- Decks are built one after the other, and `between` tells what may happen before each. -/
inductive BuiltInTurn (names : Names) (between : Run → Run → Prop) :
    List Deck → Run → List (List String) → Run → Prop
  | nil {run : Run} : BuiltInTurn names between [] run [] run
  | cons {d : Deck} {ds : List Deck} {run before after left : Run} {cards : List String}
      {others : List (List String)} (h : between run before)
      (hd : d.build names before = .ok cards after)
      (hds : BuiltInTurn names between ds after others left) :
      BuiltInTurn names between (d :: ds) run (cards :: others) left

theorem gather_ok {names : Names} {ds : List Deck} {size : Nat} {run left : Run}
    {cards : List String} (h : gather size (ds.map (Deck.build names)) run = .ok cards left) :
    ∃ decks, BuiltInTurn names Eq ds run decks left ∧ cards = decks.flatten := by
  induction ds generalizing size run cards left with
  | nil =>
    cases h
    exact ⟨[], .nil, rfl⟩
  | cons d ds ih =>
    obtain ⟨first, after, hfirst, hrest⟩ := Eval.exists_of_bind_ok h
    obtain ⟨_, same, hsize, hrest⟩ := Eval.exists_of_bind_ok hrest
    obtain ⟨others, final, hothers, hend⟩ := Eval.exists_of_bind_ok hrest
    rw [Eval.ofExcept_ok hsize] at hothers
    cases hend
    obtain ⟨decks, hdecks, hflat⟩ := ih hothers
    exact ⟨first :: decks, .cons rfl hfirst hdecks, by rw [hflat, List.flatten_cons]⟩

theorem gatherPicked_ok {names : Names} {groups : List Deck} {size n : Nat} {run left : Run}
    {cards : List String}
    (h : gatherPicked (groups.map (Deck.build names)).toArray size n run = .ok cards left) :
    ∃ picked decks, picked.length = n ∧ (∀ d ∈ picked, d ∈ groups) ∧
      BuiltInTurn names Drawn picked run decks left ∧ cards = decks.flatten := by
  induction n generalizing size run cards left with
  | zero =>
    cases h
    exact ⟨[], [], rfl, (fun d hd => by cases hd), .nil, rfl⟩
  | succ n ih =>
    obtain ⟨i, before, hpick, hrest⟩ := Eval.exists_of_bind_ok h
    obtain ⟨first, after, hfirst, hrest⟩ := Eval.exists_of_bind_ok hrest
    obtain ⟨_, same, hsize, hrest⟩ := Eval.exists_of_bind_ok hrest
    obtain ⟨others, final, hothers, hend⟩ := Eval.exists_of_bind_ok hrest
    rw [Eval.ofExcept_ok hsize] at hothers
    cases hend
    obtain ⟨hi, hdrawn⟩ := pickPlace_ok hpick
    rw [List.size_toArray, List.length_map] at hi
    rw [List.getElem?_toArray, List.getElem?_map, List.getElem?_eq_getElem hi] at hfirst
    obtain ⟨picked, decks, hlength, hmem, hdecks, hflat⟩ := ih hothers
    refine ⟨groups[i] :: picked, first :: decks, ?_, fun d hd => ?_, ?_, ?_⟩
    · rw [List.length_cons, hlength]
    · rcases List.mem_cons.mp hd with rfl | hd
      · exact List.getElem_mem hi
      · exact hmem d hd
    · exact .cons hdrawn hfirst hdecks
    · rw [hflat, List.flatten_cons]

/-- What stands at a place of the pairs: a pair where both decks have a card, else the card that is
there. -/
def pairAt (separator : String) : Option String → Option String → Option String
  | some a, some b => some (pairLabel separator a b)
  | some a, none => some a
  | none, b => b

theorem zipPairs_getElem? (separator : String) (left right : List String) (i : Nat) :
    (zipPairs separator left right)[i]? = pairAt separator left[i]? right[i]? := by
  unfold zipPairs
  induction left generalizing right i with
  | nil =>
    simp only [List.zipWith_nil_left, List.length_nil, List.drop_nil, List.drop_zero,
      List.nil_append, List.getElem?_nil, pairAt]
  | cons a left ih =>
    cases right with
    | nil =>
      simp only [List.zipWith_nil_right, List.length_nil, List.drop_zero, List.nil_append,
        List.drop_nil, List.append_nil, List.getElem?_nil]
      cases (a :: left)[i]? <;> rfl
    | cons b right =>
      cases i with
      | zero => rfl
      | succ i => exact ih right i

namespace Deck

/-! ## The meaning of a deck -/

/-- A count is resolved, and then the deck is built that so many are taken from. -/
def Taken (names : Names) (what : Counted) (count : Quantity) (source : Deck) (run : Run) (n : Nat)
    (cards : List String) (final : Run) : Prop :=
  ∃ after, Deck.count names what count run = .ok n after ∧
    source.build names after = .ok cards final

/-- Two decks are built one after the other. -/
def BothBuilt (names : Names) (left right : Deck) (run : Run) (a b : List String) (final : Run) :
    Prop :=
  ∃ after, left.build names run = .ok a after ∧ right.build names after = .ok b final

/-- What the cards of a deck have to do with the decks that its parts gave, from the run before to
the run after. -/
def Means (setup : Setup) (chain : Chain) (run : Run) (cards : List String) (final : Run) :
    Deck → Prop
  | .label s =>
    (∃ d, setup.get? (normalize s) = some d ∧
      final.memo.get? (normalize s) = some (.deck cards)) ∨
    (setup.get? (normalize s) = none ∧ cards = [normalize s] ∧ final = run)
  | .concat parts =>
    ∃ decks, BuiltInTurn (.within setup chain) Eq parts run decks final ∧ cards = decks.flatten
  | .choose n source =>
    ∃ amount S after, Taken (.within setup chain) .choose n source run amount S after ∧
      Chosen S amount cards ∧ Drawn after final
  | .chooseGroups n groups =>
    ∃ amount after before chosen decks,
      count (.within setup chain) .choose n run = .ok amount after ∧ Drawn after before ∧
      Chosen groups amount chosen ∧
      BuiltInTurn (.within setup chain) Eq chosen before decks final ∧ cards = decks.flatten
  | .draw n source =>
    ∃ amount S after, Taken (.within setup chain) .draw n source run amount S after ∧
      Picked S amount cards ∧ Drawn after final
  | .drawGroups n groups =>
    ∃ amount after picked decks,
      count (.within setup chain) .draw n run = .ok amount after ∧
      picked.length = amount ∧ (∀ d ∈ picked, d ∈ groups) ∧
      BuiltInTurn (.within setup chain) Drawn picked after decks final ∧ cards = decks.flatten
  | .duplicate n kinds source =>
    ∃ amount before k S after chosen,
      count (.within setup chain) .duplicate n run = .ok amount before ∧
      (match kinds with
        | none => k = 1 ∧ source.build (.within setup chain) before = .ok S after
        | some q => Taken (.within setup chain) .kinds q source before k S after) ∧
      Chosen S k chosen ∧ Picked chosen amount cards ∧ Drawn after final
  | .first n source =>
    ∃ amount S, Taken (.within setup chain) .first n source run amount S final ∧
      cards <+: S ∧ cards.length = amount
  | .last n source =>
    ∃ amount S, Taken (.within setup chain) .last n source run amount S final ∧
      cards <:+ S ∧ cards.length = amount
  | .cross left right separator =>
    ∃ A B after, BothBuilt (.within setup chain) left right run A B after ∧
      cards.Perm (A.flatMap fun a => B.map fun b => a ++ separator.getD " • " ++ b) ∧
      Drawn after final
  | .zip left right separator =>
    ∃ A B after, BothBuilt (.within setup chain) left right run A B after ∧
      (∃ A' B' : List String, A'.Perm A ∧ B'.Perm B ∧
        ∀ i : Nat, cards[i]? = pairAt (separator.getD " • ") A'[i]? B'[i]?) ∧
      Drawn after final
  | .cond test yes no =>
    ∃ b after, Eval.onMemo (test.eval (flagOf setup chain)) run = .ok b after ∧
      match b, no with
      | true, _ => yes.build (.within setup chain) after = .ok cards final
      | false, some d => d.build (.within setup chain) after = .ok cards final
      | false, none => cards = [] ∧ final = after
  | .set op parts => LabelSet.evalFold (deckOf setup chain) op parts run = .ok cards final

/-! ## Every deck -/

variable {setup : Setup} {chain : Chain} {run final : Run} {cards : List String}

theorem taken_of_bind {what : Counted} {n : Quantity} {source : Deck} {names : Names}
    {f : Nat → List String → Eval Run (List String)}
    (h : (do
      let n ← count names what n
      let S ← source.build names
      f n S) run = .ok cards final) :
    ∃ amount S after, Taken names what n source run amount S after ∧
      f amount S after = .ok cards final := by
  obtain ⟨amount, between, hcount, hrest⟩ := Eval.exists_of_bind_ok h
  obtain ⟨S, after, hsource, hrest⟩ := Eval.exists_of_bind_ok hrest
  exact ⟨amount, S, after, ⟨between, hcount, hsource⟩, hrest⟩

theorem bothBuilt_of_bind {left right : Deck} {names : Names}
    {f : List String → List String → Eval Run (List String)}
    (h : (do
      let A ← left.build names
      let B ← right.build names
      f A B) run = .ok cards final) :
    ∃ A B after, BothBuilt names left right run A B after ∧ f A B after = .ok cards final := by
  obtain ⟨A, between, hleft, hrest⟩ := Eval.exists_of_bind_ok h
  obtain ⟨B, after, hright, hrest⟩ := Eval.exists_of_bind_ok hrest
  exact ⟨A, B, after, ⟨between, hleft, hright⟩, hrest⟩

/-- A name that a parameter has is known with its deck afterwards. Else nothing has happened. -/
theorem label_means {s : String} (hknown : Grows setup [] [] run.memo)
    (h : (Deck.label s).build (.within setup chain) run = .ok cards final) :
    Means setup chain run cards final (.label s) := by
  rw [build] at h
  obtain ⟨found, after, hfound, hend⟩ := Eval.exists_of_bind_ok h
  rw [show (Names.within setup chain).deck = deckOf setup chain from rfl, deckOf_eq] at hfound
  cases Parameter.looksUp hfound with
  | @known v deck hv hb =>
    cases hend
    cases v with
    | deck labels =>
      cases hb
      rcases hknown.news _ _ hv with hnil | ⟨_, d, hd, _⟩
      · cases hnil
      · exact Or.inl ⟨d, hd, hv⟩
    | _ => cases hb
  | absent hm hc hs =>
    cases hend
    exact Or.inr ⟨hs, rfl, rfl⟩
  | resolved hm hf hs he hb =>
    cases hend
    exact Or.inl ⟨_, hs, ByName.get?_put_self _ _ _⟩

theorem choose_means {n : Quantity} {source : Deck}
    (h : (choose n source).build (.within setup chain) run = .ok cards final) :
    Means setup chain run cards final (.choose n source) := by
  rw [build] at h
  obtain ⟨amount, S, after, htaken, hend⟩ := taken_of_bind h
  exact ⟨amount, S, after, htaken, chooseExactly_ok hend⟩

theorem chooseGroups_means {n : Quantity} {groups : List Deck}
    (h : (chooseGroups n groups).build (.within setup chain) run = .ok cards final) :
    Means setup chain run cards final (.chooseGroups n groups) := by
  rw [build_chooseGroups, builders_eq_map] at h
  obtain ⟨amount, after, hcount, hrest⟩ := Eval.exists_of_bind_ok h
  obtain ⟨_, same, hrefuse, hrest⟩ := Eval.exists_of_bind_ok hrest
  obtain ⟨places, before, hdraw, hend⟩ := Eval.exists_of_bind_ok hrest
  obtain ⟨henough, rfl⟩ := Eval.refuse_ok hrefuse
  obtain ⟨hplaces, hdrawn⟩ := Eval.draw_ok hdraw
  obtain ⟨hdifferent, hlength⟩ := Generator.choosePlaces_places groups.length amount same.generator
  rw [← hplaces] at hdifferent hlength
  rw [Nat.min_eq_left (Nat.le_of_not_lt henough)] at hlength
  have chosen := Generator.itemsAt_chosen hdifferent
  rw [hlength] at chosen
  rw [itemsAt_map] at hend
  obtain ⟨decks, hdecks, hflat⟩ := gather_ok hend
  exact ⟨amount, same, before, _, decks, hcount, hdrawn, chosen, hdecks, hflat⟩

theorem draw_means {n : Quantity} {source : Deck}
    (h : (draw n source).build (.within setup chain) run = .ok cards final) :
    Means setup chain run cards final (.draw n source) := by
  rw [build] at h
  obtain ⟨amount, S, after, htaken, hend⟩ := taken_of_bind h
  exact ⟨amount, S, after, htaken, drawCards_ok hend⟩

theorem drawGroups_means {n : Quantity} {groups : List Deck}
    (h : (drawGroups n groups).build (.within setup chain) run = .ok cards final) :
    Means setup chain run cards final (.drawGroups n groups) := by
  rw [build, builders_eq_map] at h
  obtain ⟨amount, after, hcount, hend⟩ := Eval.exists_of_bind_ok h
  obtain ⟨picked, decks, hlength, hmem, hdecks, hflat⟩ := gatherPicked_ok hend
  exact ⟨amount, after, picked, decks, hcount, hlength, hmem, hdecks, hflat⟩

theorem duplicate_means {n : Quantity} {kinds : Option Quantity} {source : Deck}
    (h : (duplicate n kinds source).build (.within setup chain) run = .ok cards final) :
    Means setup chain run cards final (.duplicate n kinds source) := by
  rw [build_duplicate] at h
  obtain ⟨amount, before, hcount, hrest⟩ := Eval.exists_of_bind_ok h
  obtain ⟨k, between, hkinds, hrest⟩ := Eval.exists_of_bind_ok hrest
  obtain ⟨S, after, hsource, hrest⟩ := Eval.exists_of_bind_ok hrest
  obtain ⟨chosen, drawn, hchoose, hend⟩ := Eval.exists_of_bind_ok hrest
  obtain ⟨hchosen, hdrawn⟩ := chooseExactly_ok hchoose
  obtain ⟨hpicked, hdrawn'⟩ := drawCards_ok hend
  refine ⟨amount, before, k, S, after, chosen, hcount, ?_, hchosen, hpicked, hdrawn'.trans hdrawn⟩
  cases kinds with
  | none =>
    cases hkinds
    exact ⟨rfl, hsource⟩
  | some q => exact ⟨between, hkinds, hsource⟩

theorem first_means {n : Quantity} {source : Deck}
    (h : (first n source).build (.within setup chain) run = .ok cards final) :
    Means setup chain run cards final (.first n source) := by
  rw [build_first] at h
  obtain ⟨amount, S, after, htaken, hrest⟩ := taken_of_bind h
  obtain ⟨_, same, hrefuse, hend⟩ := Eval.exists_of_bind_ok hrest
  obtain ⟨henough, rfl⟩ := Eval.refuse_ok hrefuse
  cases hend
  refine ⟨amount, S, htaken, List.take_prefix _ _, ?_⟩
  rw [List.length_take]
  omega

theorem last_means {n : Quantity} {source : Deck}
    (h : (last n source).build (.within setup chain) run = .ok cards final) :
    Means setup chain run cards final (.last n source) := by
  rw [build_last] at h
  obtain ⟨amount, S, after, htaken, hrest⟩ := taken_of_bind h
  obtain ⟨_, same, hrefuse, hend⟩ := Eval.exists_of_bind_ok hrest
  obtain ⟨henough, rfl⟩ := Eval.refuse_ok hrefuse
  cases hend
  refine ⟨amount, S, htaken, List.drop_suffix _ _, ?_⟩
  rw [List.length_drop]
  omega

theorem cross_means {left right : Deck} {separator : Option String}
    (h : (cross left right separator).build (.within setup chain) run = .ok cards final) :
    Means setup chain run cards final (.cross left right separator) := by
  rw [build_cross] at h
  obtain ⟨A, B, after, hboth, hrest⟩ := bothBuilt_of_bind h
  obtain ⟨_, same, hrefuse, hend⟩ := Eval.exists_of_bind_ok hrest
  obtain ⟨_, rfl⟩ := Eval.refuse_ok hrefuse
  exact ⟨A, B, same, hboth, shuffled_ok hend⟩

theorem zip_means {left right : Deck} {separator : Option String}
    (h : (zip left right separator).build (.within setup chain) run = .ok cards final) :
    Means setup chain run cards final (.zip left right separator) := by
  rw [build] at h
  obtain ⟨A, B, after, hboth, hrest⟩ := bothBuilt_of_bind h
  obtain ⟨A', between, hleft, hrest⟩ := Eval.exists_of_bind_ok hrest
  obtain ⟨B', drawn, hright, hend⟩ := Eval.exists_of_bind_ok hrest
  obtain ⟨hA, hdrawn⟩ := shuffled_ok hleft
  obtain ⟨hB, hdrawn'⟩ := shuffled_ok hright
  cases hend
  exact ⟨A, B, after, hboth, ⟨A', B', hA, hB, zipPairs_getElem? _ A' B'⟩, hdrawn'.trans hdrawn⟩

theorem cond_means {test : Flag} {yes : Deck} {no : Option Deck}
    (h : (cond test yes no).build (.within setup chain) run = .ok cards final) :
    Means setup chain run cards final (.cond test yes no) := by
  rw [build] at h
  obtain ⟨b, after, htest, hend⟩ := Eval.exists_of_bind_ok h
  refine ⟨b, after, htest, ?_⟩
  cases b with
  | true => exact hend
  | false =>
    rw [if_neg Bool.false_ne_true] at hend
    cases no with
    | none =>
      rw [buildOr] at hend
      cases hend
      exact ⟨rfl, rfl⟩
    | some d =>
      rw [buildOr] at hend
      exact hend

end Deck

/-- A memo at some point of a game, maybe in the middle of an evaluation: it has grown from one
that the game has reached. -/
def Underway (setup : Setup) (m : Memo) : Prop :=
  ∃ reached, Reached setup reached ∧ Grows setup [] reached m

/-- A deck that is built is what its expression means. This holds for every expression, so it holds
of the decks that its parts gave as well, down to the labels. -/
theorem a_built_deck_is_what_its_expression_means (setup : Setup) (chain : Chain) (d : Deck)
    {run final : Run} {cards : List String} (hrun : Underway setup run.memo)
    (h : d.build (.within setup chain) run = .ok cards final) :
    d.Means setup chain run cards final := by
  cases d with
  | label s =>
    obtain ⟨reached, ⟨history, hreached⟩, hgrown⟩ := hrun
    rw [hreached] at hgrown
    exact Deck.label_means ((Memo.after_grows setup [] history).trans hgrown) h
  | concat parts =>
    rw [Deck.build, Deck.builders_eq_map] at h
    exact gather_ok h
  | choose n source => exact Deck.choose_means h
  | chooseGroups n groups => exact Deck.chooseGroups_means h
  | draw n source => exact Deck.draw_means h
  | drawGroups n groups => exact Deck.drawGroups_means h
  | duplicate n kinds source => exact Deck.duplicate_means h
  | first n source => exact Deck.first_means h
  | last n source => exact Deck.last_means h
  | cross left right separator => exact Deck.cross_means h
  | zip left right separator => exact Deck.zip_means h
  | cond test yes no => exact Deck.cond_means h
  | set op parts =>
    rw [Deck.build] at h
    exact h

/-- The card of a parameter is paired with the first of two shuffled cards, and the other one is
left over. -/
theorem a_zip_pairs_and_keeps_the_rest :
    Underway oneOfTwo [] ∧
      (Deck.zip (.label "pick") (.concat [.label "x", .label " y "]) none).Means oneOfTwo []
        ⟨[], twoWords⟩ ["b • y", "x"]
        ⟨[("pick", .deck ["b"])], { twoWords with pending := [] }⟩ := by
  have reached : Underway oneOfTwo [] := ⟨[], ⟨[], rfl⟩, Grows.refl []⟩
  have built : (Deck.zip (.label "pick") (.concat [.label "x", .label " y "]) none).build
      (.within oneOfTwo []) ⟨[], twoWords⟩ =
        .ok ["b • y", "x"] ⟨[("pick", .deck ["b"])], { twoWords with pending := [] }⟩ := by
    simp only [Names.within, deckOf_eq_lookUp oneOfTwo []]
    decide +kernel
  exact ⟨reached, a_built_deck_is_what_its_expression_means oneOfTwo [] _ reached built⟩

end Dealer
