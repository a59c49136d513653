-- Seams between labels. Every label of an expression is normalized, but a pair is glued
-- together with a separator as it is written. So a card is in its normal form where all
-- separators in it fit between their labels, and a pair is not where its own does not.
import Dealer.Proofs.KnownDecks
import Dealer.Proofs.Meaning
import Dealer.Proofs.NormalLabels

namespace Dealer

/-! ## What cards are made of -/

/-- A piece of a card. -/
inductive Piece
  | label (text : String)
  /-- What stands between the labels of a pair. -/
  | separator (text : String)

namespace LabelSet

mutual

def pieces : LabelSet → List Piece
  | .label s => [.label s]
  | .list parts => piecesOfAll parts
  | .fold _ parts => piecesOfAll parts

def piecesOfAll : List LabelSet → List Piece
  | [] => []
  | s :: ss => pieces s ++ piecesOfAll ss

end

end LabelSet

namespace Deck

mutual

/-- The pieces that a deck has, apart from those of its parameters. -/
def pieces : Deck → List Piece
  | .label s => [.label s]
  | .concat parts => piecesOfAll parts
  | .choose _ source => pieces source
  | .chooseGroups _ groups => piecesOfAll groups
  | .draw _ source => pieces source
  | .drawGroups _ groups => piecesOfAll groups
  | .duplicate _ _ source => pieces source
  | .first _ source => pieces source
  | .last _ source => pieces source
  | .cross left right separator =>
    .separator (separator.getD defaultSeparator) :: (pieces left ++ pieces right)
  | .zip left right separator =>
    .separator (separator.getD defaultSeparator) :: (pieces left ++ pieces right)
  | .cond _ yes no => pieces yes ++ piecesOr no
  | .set _ parts => LabelSet.piecesOfAll parts

def piecesOfAll : List Deck → List Piece
  | [] => []
  | d :: ds => pieces d ++ piecesOfAll ds

def piecesOr : Option Deck → List Piece
  | none => []
  | some d => pieces d

end

theorem pieces_subset_of_mem {d : Deck} {ds : List Deck} (hd : d ∈ ds) :
    d.pieces ⊆ piecesOfAll ds := by
  induction ds with
  | nil => cases hd
  | cons first ds ih =>
    rw [piecesOfAll]
    rcases List.mem_cons.mp hd with rfl | hd
    · exact List.subset_append_left _ _
    · exact List.subset_append_of_subset_right _ (ih hd)

/-- The pieces of a deck and of the parameters. -/
def HasPiece (setup : Setup) (d : Deck) (p : Piece) : Prop :=
  p ∈ d.pieces ∨ ∃ name doc deck, setup.get? name = some doc ∧ Deck.ofDocument? doc = some deck ∧
    p ∈ deck.pieces

end Deck

/-! ## What all cards have in common -/

/-- A property that labels in their normal form have, and that pairs inherit from their labels. -/
structure Inherited (has : Piece → Prop) (P : String → Prop) : Prop where
  label : ∀ s, has (.label s) → P (normalize s)
  pair : ∀ separator, has (.separator separator) → ∀ a b, P a → P b → P (pairLabel separator a b)

/-- All cards of a deck have a property, whatever parameter it is of. -/
abbrev AllCards (P : String → Prop) (_ : String) (cards : List String) : Prop :=
  ∀ card ∈ cards, P card

/-- All cards that something gives have a property, if those that are known have it. -/
def Gives (P : String → Prop) (x : Eval Run (List String)) : Prop :=
  ∀ ⦃run final : Run⦄ ⦃cards : List String⦄, DecksKnown (AllCards P) run.memo →
    x run = .ok cards final → ∀ card ∈ cards, P card

variable {has : Piece → Prop} {P : String → Prop} {setup : Setup} {chain : Chain} {look : DeckLook}

theorem cardsOf_gives (h : FindsDecks (AllCards P) look) {s : String} (hs : P (normalize s)) :
    Gives P (cardsOf look s) := by
  intro run final cards hrun hcards
  obtain ⟨found, after, hfound, hend⟩ := Eval.exists_of_bind_ok hcards
  cases found with
  | some deck =>
    cases hend
    exact h.found _ _ _ _ hrun hfound
  | none =>
    cases hend
    simpa using hs

/-! ## Sets -/

theorem SetOp.mem_of_mem_apply {op : SetOp} {first second : List String} {label : String}
    (h : label ∈ op.apply first second) : label ∈ first ∨ label ∈ second := by
  cases op with
  | union => exact List.mem_append.mp (mem_distinct.mp h)
  | intersect => exact Or.inl (List.mem_of_mem_filter h)
  | except => exact Or.inl (List.mem_of_mem_filter h)

namespace LabelSet

mutual

theorem eval_gives (hP : Inherited has P) (h : FindsDecks (AllCards P) look) : ∀ s : LabelSet,
    (∀ p ∈ s.pieces, has p) → Gives P (s.eval look)
  | .label s, hs, run, final, labels, hrun, hok => by
    rw [pieces, List.forall_mem_singleton] at hs
    rw [eval] at hok
    obtain ⟨cards, after, hcards, hend⟩ := Eval.exists_of_bind_ok hok
    cases hend
    intro label hlabel
    exact cardsOf_gives h (hP.label s hs) hrun hcards label (mem_distinct.mp hlabel)
  | .list parts, hs, run, final, labels, hrun, hok => by
    rw [pieces] at hs
    rw [eval] at hok
    exact evalFrom_gives hP h .union parts hs [] (by simp) hrun hok
  | .fold op parts, hs, run, final, labels, hrun, hok => by
    rw [pieces] at hs
    rw [eval] at hok
    exact evalFold_gives hP h op parts hs hrun hok

theorem evalFold_gives (hP : Inherited has P) (h : FindsDecks (AllCards P) look) (op : SetOp) :
    ∀ parts : List LabelSet, (∀ p ∈ piecesOfAll parts, has p) → Gives P (evalFold look op parts)
  | [], _, run, final, labels, _, hok => by
    rw [evalFold] at hok
    cases hok
    simp
  | s :: ss, hs, run, final, labels, hrun, hok => by
    rw [piecesOfAll, List.forall_mem_append] at hs
    rw [evalFold] at hok
    obtain ⟨first, after, hfirst, hrest⟩ := Eval.exists_of_bind_ok hok
    have hafter : DecksKnown (AllCards P) after.memo :=
      (eval_has Keeps.composes h.keeps s).ok hrun hfirst
    exact evalFrom_gives hP h op ss hs.2 first (eval_gives hP h s hs.1 hrun hfirst) hafter hrest

theorem evalFrom_gives (hP : Inherited has P) (h : FindsDecks (AllCards P) look) (op : SetOp) :
    ∀ parts : List LabelSet, (∀ p ∈ piecesOfAll parts, has p) → ∀ first : List String,
      (∀ label ∈ first, P label) → Gives P (evalFrom look op first parts)
  | [], _, first, hfirst, run, final, labels, _, hok => by
    rw [evalFrom] at hok
    cases hok
    exact hfirst
  | s :: ss, hs, first, hfirst, run, final, labels, hrun, hok => by
    rw [piecesOfAll, List.forall_mem_append] at hs
    rw [evalFrom] at hok
    obtain ⟨second, after, hsecond, hrest⟩ := Eval.exists_of_bind_ok hok
    have hafter : DecksKnown (AllCards P) after.memo :=
      (eval_has Keeps.composes h.keeps s).ok hrun hsecond
    refine evalFrom_gives hP h op ss hs.2 _ (fun label hlabel => ?_) hafter hrest
    rcases op.mem_of_mem_apply hlabel with hlabel | hlabel
    · exact hfirst label hlabel
    · exact eval_gives hP h s hs.1 hrun hsecond label hlabel

end

end LabelSet

/-! ## Decks -/

theorem BuiltInTurn.gives {names : Names} {between : Run → Run → Prop} {ds : List Deck}
    {run final : Run} {decks : List (List String)}
    (built : BuiltInTurn names between ds run decks final)
    (hbetween : ∀ before after, between before after → after.memo = before.memo)
    (hkeeps : ∀ d : Deck, Keeps (DecksKnown (AllCards P)) (List String) (d.build names))
    (hrun : DecksKnown (AllCards P) run.memo) (h : ∀ d ∈ ds, Gives P (d.build names)) :
    ∀ card ∈ decks.flatten, P card := by
  induction built with
  | nil => simp
  | @cons d ds run before after final cards others hstep hd _ ih =>
    have hbefore : DecksKnown (AllCards P) before.memo := by
      rw [hbetween _ _ hstep]
      exact hrun
    intro card hcard
    rw [List.flatten_cons, List.mem_append] at hcard
    rcases hcard with hcard | hcard
    · exact h d List.mem_cons_self hbefore hd card hcard
    · have hafter := (hkeeps d).ok hbefore hd
      exact ih hafter (fun d hmem => h d (List.mem_cons_of_mem _ hmem)) card hcard

/-- What stands at a place of the pairs is a pair of two cards or one of them. -/
theorem of_pairAt_eq_some {separator card : String} {x y : Option String}
    (h : pairAt separator x y = some card) :
    (∃ a b, x = some a ∧ y = some b ∧ card = pairLabel separator a b) ∨ x = some card ∨
      y = some card := by
  cases x with
  | none => exact Or.inr (Or.inr h)
  | some a =>
    cases y with
    | none => exact Or.inr (Or.inl h)
    | some b =>
      cases h
      exact Or.inl ⟨a, b, rfl, rfl, rfl⟩

namespace Deck

variable {run final : Run} {cards : List String}

theorem Taken.gives {what : Counted} {n : Quantity} {source : Deck} {amount : Nat}
    (taken : Taken (.within setup chain) what n source run amount cards final)
    (hnames : (Names.within setup chain).Keep (DecksKnown (AllCards P)))
    (hrun : DecksKnown (AllCards P) run.memo)
    (h : Gives P (source.build (.within setup chain))) : ∀ card ∈ cards, P card := by
  obtain ⟨between, hcount, hsource⟩ := taken
  exact h ((hnames.have.count what n).ok hrun hcount) hsource

/-- A property that pairs inherit is one of every card of a deck. -/
theorem build_gives (hP : Inherited has P)
    (hnames : (Names.within setup chain).Keep (DecksKnown (AllCards P)))
    (hlook : FindsDecks (AllCards P) (deckOf setup chain)) :
    ∀ d : Deck, (∀ p ∈ d.pieces, has p) → Gives P (d.build (.within setup chain))
  | .label s, hd, run, final, cards, hrun, h => by
    rw [pieces, List.forall_mem_singleton] at hd
    rw [build] at h
    exact cardsOf_gives hlook (hP.label s hd) hrun h
  | .concat parts, hd, run, final, cards, hrun, h => by
    rw [pieces] at hd
    rw [build, builders_eq_map] at h
    obtain ⟨decks, built, rfl⟩ := gather_ok h
    refine built.gives (fun _ _ heq => by rw [heq]) hnames.build hrun ?_
    intro d hmem
    exact build_gives hP hnames hlook d fun p hp => hd p (pieces_subset_of_mem hmem hp)
  | .choose n source, hd, run, final, cards, hrun, h => by
    rw [pieces] at hd
    obtain ⟨amount, S, after, taken, chosen, -⟩ := choose_means h
    have known := taken.gives hnames hrun (build_gives hP hnames hlook source hd)
    exact fun card hcard => known card (chosen.subset card hcard)
  | .chooseGroups n groups, hd, run, final, cards, hrun, h => by
    rw [pieces] at hd
    obtain ⟨amount, after, before, picked, decks, hcount, hdrawn, chosen, built, rfl⟩ :=
      chooseGroups_means h
    have hbefore : DecksKnown (AllCards P) before.memo := by
      rw [hdrawn]
      exact (hnames.have.count _ n).ok hrun hcount
    refine built.gives (fun _ _ heq => by rw [heq]) hnames.build hbefore ?_
    intro d hmem
    have hgroup := chosen.subset d hmem
    exact build_gives hP hnames hlook d fun p hp => hd p (pieces_subset_of_mem hgroup hp)
  | .draw n source, hd, run, final, cards, hrun, h => by
    rw [pieces] at hd
    obtain ⟨amount, S, after, taken, ⟨-, hpicked⟩, -⟩ := draw_means h
    have known := taken.gives hnames hrun (build_gives hP hnames hlook source hd)
    exact fun card hcard => known card (hpicked card hcard)
  | .drawGroups n groups, hd, run, final, cards, hrun, h => by
    rw [pieces] at hd
    obtain ⟨amount, after, picked, decks, hcount, -, hpicked, built, rfl⟩ := drawGroups_means h
    have hafter : DecksKnown (AllCards P) after.memo := (hnames.have.count _ n).ok hrun hcount
    refine built.gives (fun _ _ hdrawn => hdrawn) hnames.build hafter ?_
    intro d hmem
    have hgroup := hpicked d hmem
    exact build_gives hP hnames hlook d fun p hp => hd p (pieces_subset_of_mem hgroup hp)
  | .duplicate n kinds source, hd, run, final, cards, hrun, h => by
    rw [pieces] at hd
    have hsource := build_gives hP hnames hlook source hd
    obtain ⟨amount, before, k, S, after, chosen, hcount, htaken, hchosen, ⟨-, hpicked⟩, -⟩ :=
      duplicate_means h
    have hbefore : DecksKnown (AllCards P) before.memo := (hnames.have.count _ n).ok hrun hcount
    have known : ∀ card ∈ S, P card := by
      cases kinds with
      | none => exact hsource hbefore htaken.2
      | some q => exact htaken.gives hnames hbefore hsource
    exact fun card hcard => known card (hchosen.subset card (hpicked card hcard))
  | .first n source, hd, run, final, cards, hrun, h => by
    rw [pieces] at hd
    obtain ⟨amount, S, taken, hfirst, -⟩ := first_means h
    have known := taken.gives hnames hrun (build_gives hP hnames hlook source hd)
    exact fun card hcard => known card (hfirst.subset hcard)
  | .last n source, hd, run, final, cards, hrun, h => by
    rw [pieces] at hd
    obtain ⟨amount, S, taken, hlast, -⟩ := last_means h
    have known := taken.gives hnames hrun (build_gives hP hnames hlook source hd)
    exact fun card hcard => known card (hlast.subset hcard)
  | .cross left right separator, hd, run, final, cards, hrun, h => by
    rw [pieces, List.forall_mem_cons, List.forall_mem_append] at hd
    obtain ⟨hseparator, hleft, hright⟩ := hd
    obtain ⟨A, B, after, ⟨between, hA, hB⟩, hperm, -⟩ := cross_means h
    have hbetween : DecksKnown (AllCards P) between.memo := (hnames.build left).ok hrun hA
    have knownA := build_gives hP hnames hlook left hleft hrun hA
    have knownB := build_gives hP hnames hlook right hright hbetween hB
    intro card hcard
    obtain ⟨a, ha, hcard⟩ := List.mem_flatMap.mp (hperm.mem_iff.mp hcard)
    obtain ⟨b, hb, rfl⟩ := List.mem_map.mp hcard
    exact hP.pair _ hseparator a b (knownA a ha) (knownB b hb)
  | .zip left right separator, hd, run, final, cards, hrun, h => by
    rw [pieces, List.forall_mem_cons, List.forall_mem_append] at hd
    obtain ⟨hseparator, hleft, hright⟩ := hd
    obtain ⟨A, B, after, ⟨between, hA, hB⟩, ⟨A', B', hpermA, hpermB, hpairs⟩, -⟩ := zip_means h
    have hbetween : DecksKnown (AllCards P) between.memo := (hnames.build left).ok hrun hA
    have knownA (a : String) {i : Nat} (ha : A'[i]? = some a) : P a :=
      build_gives hP hnames hlook left hleft hrun hA a
        (hpermA.mem_iff.mp (List.mem_of_getElem? ha))
    have knownB (b : String) {i : Nat} (hb : B'[i]? = some b) : P b :=
      build_gives hP hnames hlook right hright hbetween hB b
        (hpermB.mem_iff.mp (List.mem_of_getElem? hb))
    intro card hcard
    obtain ⟨i, hi⟩ := List.mem_iff_getElem?.mp hcard
    rw [hpairs] at hi
    rcases of_pairAt_eq_some hi with ⟨a, b, ha, hb, rfl⟩ | ha | hb
    · exact hP.pair _ hseparator a b (knownA a ha) (knownB b hb)
    · exact knownA card ha
    · exact knownB card hb
  | .cond test yes no, hd, run, final, cards, hrun, h => by
    rw [pieces, List.forall_mem_append] at hd
    obtain ⟨hyes, hno⟩ := hd
    obtain ⟨b, after, htest, hend⟩ := cond_means h
    have hafter : DecksKnown (AllCards P) after.memo := (hnames.have.flag test).ok hrun htest
    cases b with
    | true => exact build_gives hP hnames hlook yes hyes hafter hend
    | false =>
      cases no with
      | none =>
        rw [hend.1]
        simp
      | some d =>
        rw [piecesOr] at hno
        exact build_gives hP hnames hlook d hno hafter hend
  | .set op parts, hd, run, final, cards, hrun, h => by
    rw [pieces] at hd
    rw [build] at h
    exact LabelSet.evalFold_gives hP hlook op parts hd hrun h

end Deck

/-- A property that pairs inherit is one of every card of a deck, in every game. -/
theorem Inherited.of_build {d : Deck} {run final : Run} {cards : List String}
    (hP : Inherited (d.HasPiece setup) P) (hrun : Reached setup run.memo)
    (h : d.build (.of setup) run = .ok cards final) : ∀ card ∈ cards, P card := by
  have finds : FindsDecks (AllCards P) (deckOf setup []) := by
    refine deckOf_findsDecks (fun chain name doc deck h hd hdeck s cards t hs hok => ?_) []
    have pieces : ∀ p ∈ deck.pieces, d.HasPiece setup p := fun p hp =>
      Or.inr ⟨name, doc, deck, hd, hdeck, hp⟩
    exact Deck.build_gives hP h.within_keep h deck pieces hs hok
  exact Deck.build_gives hP finds.within_keep finds d (fun _ => Or.inl) (hrun.decksKnown finds) h

/-! ## How cards are glued -/

/-- How a card is glued together. -/
inductive Gluing
  | label (text : String)
  | pair (separator : String) (left right : Gluing)

namespace Gluing

/-- The card that comes of it. -/
def card : Gluing → String
  | .label s => normalize s
  | .pair separator left right => pairLabel separator left.card right.card

/-- All its pieces are of some kind. -/
def Of (has : Piece → Prop) : Gluing → Prop
  | .label s => has (.label s)
  | .pair separator left right => has (.separator separator) ∧ left.Of has ∧ right.Of has

/-- Every separator fits where it stands. -/
def Fit : Gluing → Prop
  | .label _ => True
  | .pair separator left right =>
    Fits separator.toList left.card.toList right.card.toList ∧ left.Fit ∧ right.Fit

theorem toList_card_pair (separator : String) (left right : Gluing) :
    (pair separator left right).card.toList =
      left.card.toList ++ separator.toList ++ right.card.toList := by
  rw [card, pairLabel, String.toList_append, String.toList_append]

theorem Fit.neat {g : Gluing} (h : g.Fit) : Neat g.card.toList := by
  induction g with
  | label s => exact neat_normalize s
  | pair separator left right ihleft ihright =>
    obtain ⟨fits, hleft, hright⟩ := h
    rw [toList_card_pair]
    exact (neat_append_iff (ihleft hleft) (ihright hright)).mpr fits

theorem normalize_card_pair_iff {separator : String} {left right : Gluing} (hleft : left.Fit)
    (hright : right.Fit) :
    normalize (pair separator left right).card = (pair separator left right).card ↔
      (pair separator left right).Fit := by
  rw [normalize_eq_self_iff, toList_card_pair, neat_append_iff hleft.neat hright.neat]
  exact (and_iff_left ⟨hleft, hright⟩).symm

/-- Labels with words make cards that are not empty. -/
theorem toList_card_ne_nil {g : Gluing} (h : g.Of has)
    (hlabels : ∀ s, has (.label s) → normalize s ≠ "") : g.card.toList ≠ [] := by
  induction g with
  | label s =>
    intro hnil
    exact hlabels s h (String.toList_inj.mp hnil)
  | pair separator left right ihleft _ =>
    rw [toList_card_pair]
    simp [ihleft h.2.1]

end Gluing

/-- Separators fit between whatever labels they stand. Those with a blank at an end are spaced, and
no label is without words. -/
def AlwaysFit (has : Piece → Prop) : Prop :=
  ∀ separator, has (.separator separator) → Fits separator.toList [] [] ∨
    Spaced separator.toList ∧ ∀ s, has (.label s) → normalize s ≠ ""

theorem AlwaysFit.fit (h : AlwaysFit has) {g : Gluing} (hg : g.Of has) : g.Fit := by
  induction g with
  | label s => trivial
  | pair separator left right ihleft ihright =>
    obtain ⟨hseparator, hleft, hright⟩ := hg
    refine ⟨?_, ihleft hleft, ihright hright⟩
    rcases h separator hseparator with fits | ⟨spaced, hlabels⟩
    · exact ⟨fits.spaced, fun _ => fits.front rfl, fun _ => fits.back rfl⟩
    · exact ⟨spaced, fun hnil => absurd hnil (Gluing.toList_card_ne_nil hleft hlabels),
        fun hnil => absurd hnil (Gluing.toList_card_ne_nil hright hlabels)⟩

theorem inherited_glued (has : Piece → Prop) :
    Inherited has fun card => ∃ g : Gluing, g.Of has ∧ g.card = card where
  label s hs := ⟨.label s, hs, rfl⟩
  pair separator hs a b := by
    rintro ⟨left, hleft, rfl⟩ ⟨right, hright, rfl⟩
    exact ⟨.pair separator left right, ⟨hs, hleft, hright⟩, rfl⟩

/-! ## Cards in their normal form -/

/-- A label is compared with the normal form of a text. -/
theorem accepts_is (look : DeckLook) (card text : String) (run : Run) :
    (Matcher.test .is text).accepts look card run = .ok (decide (card = normalize text)) run := by
  rw [Matcher.accepts]
  rfl

/-- Every card is glued together from labels and separators of its deck and of the parameters. Where
all separators fit it is in its normal form, and then its own text asks for it. So this holds of all
cards where the separators always fit. But a pair is not in its normal form where its separator does
not fit between labels that are. -/
theorem a_card_is_in_normal_form_where_its_separators_fit (setup : Setup) (d : Deck)
    {run final : Run} {cards : List String} (hrun : Reached setup run.memo)
    (h : d.build (.of setup) run = .ok cards final) :
    (∀ card ∈ cards, ∃ g : Gluing, g.Of (d.HasPiece setup) ∧ g.card = card ∧
      (g.Fit → normalize card = card) ∧
      ∀ look run, (Matcher.test .is card).accepts look card run =
        .ok (decide (card = normalize card)) run) ∧
    (AlwaysFit (d.HasPiece setup) → ∀ card ∈ cards, normalize card = card) ∧
    ∀ (separator : String) (left right : Gluing), left.Fit → right.Fit →
      (normalize (Gluing.pair separator left right).card = (Gluing.pair separator left right).card ↔
        (Gluing.pair separator left right).Fit) := by
  have glued := (inherited_glued (d.HasPiece setup)).of_build hrun h
  refine ⟨fun card hcard => ?_, fun halways card hcard => ?_, fun separator left right hl hr =>
    Gluing.normalize_card_pair_iff hl hr⟩
  · obtain ⟨g, hg, rfl⟩ := glued card hcard
    exact ⟨g, hg, rfl, fun hfit => (normalize_eq_self_iff _).mpr hfit.neat,
      fun look run => accepts_is look g.card g.card run⟩
  · obtain ⟨g, hg, rfl⟩ := glued card hcard
    exact (normalize_eq_self_iff _).mpr (halways.fit hg).neat

/-- Two spaces between two labels make a card that no text asks for. -/
theorem no_text_asks_for_two_spaces :
    Reached .empty [] ∧
      (Deck.cross (.label "a") (.label "b") (some "  ")).build (.of .empty) (.start twoWords) =
        .ok ["a  b"] (.start twoWords) ∧
      normalize "a  b" = "a b" ∧
      ∀ look text, (Matcher.test .is text).accepts look "a  b" (.start twoWords) =
        .ok false (.start twoWords) := by
  have normal : normalize "a  b" = "a b" := by decide +kernel
  refine ⟨⟨[], rfl⟩, ?_, normal, fun look text => ?_⟩
  · simp only [Names.of, Names.within, deckOf_eq_lookUp .empty []]
    decide +kernel
  · have other : "a  b" ≠ normalize text := by
      intro heq
      have same := normalize_normalize text
      rw [← heq, normal] at same
      exact absurd same (by decide)
    rw [accepts_is, decide_eq_false other]

theorem spaced_defaultSeparator : Spaced defaultSeparator.toList := by
  have chars : defaultSeparator.toList = [' ', '•', ' '] := rfl
  have plain : isBlank '•' = false := by decide +kernel
  rw [chars]
  constructor
  · simp [plain]
  · simp [Apart, plain]

/-- The separator of pairs without one of their own fits between two labels with words. -/
theorem a_pair_of_two_words_is_in_normal_form :
    Reached .empty [] ∧
      (Deck.cross (.label " a ") (.label "b") none).build (.of .empty) (.start twoWords) =
        .ok ["a • b"] (.start twoWords) ∧
      AlwaysFit ((Deck.cross (.label " a ") (.label "b") none).HasPiece .empty) ∧
      normalize "a • b" = "a • b" := by
  have reached : Reached .empty [] := ⟨[], rfl⟩
  have built : (Deck.cross (.label " a ") (.label "b") none).build (.of .empty) (.start twoWords) =
      .ok ["a • b"] (.start twoWords) := by
    simp only [Names.of, Names.within, deckOf_eq_lookUp .empty []]
    decide +kernel
  have fits : AlwaysFit ((Deck.cross (.label " a ") (.label "b") none).HasPiece .empty) := by
    rintro separator (hmem | ⟨name, d, deck, hd, -⟩)
    · rw [show separator = defaultSeparator by simpa [Deck.pieces] using hmem]
      refine Or.inr ⟨spaced_defaultSeparator, ?_⟩
      rintro s (hs | ⟨name, d, deck, hd, -⟩)
      · rcases (by simpa [Deck.pieces] using hs : s = " a " ∨ s = "b") with rfl | rfl
        · decide +kernel
        · decide +kernel
      · cases hd
    · cases hd
  obtain ⟨-, hall, -⟩ := a_card_is_in_normal_form_where_its_separators_fit .empty _ reached built
  exact ⟨reached, built, fits, hall fits "a • b" (List.mem_singleton_self _)⟩

end Dealer
