-- How large decks can get. Counts are bounded, and lists, groups and pairs are
-- checked as they grow. Operations on sets are not, so a deck can be larger than
-- the largest count only where its size comes from such an operation.
import Dealer.Proofs.Counting
import Dealer.Proofs.KnownDecks
import Dealer.Proofs.Meaning
import Dealer.Proofs.NormalLabels

namespace Dealer

/-! ## What a set is made of -/

namespace LabelSet

mutual

/-- The labels of a set that its size comes from. What an operation takes away does not count. -/
def leads : LabelSet → List String
  | .label s => [s]
  | .list parts => leadsOfAll parts
  | .fold op parts => leadsOfFold op parts

def leadsOfAll : List LabelSet → List String
  | [] => []
  | s :: ss => leads s ++ leadsOfAll ss

def leadsOfFold (op : SetOp) : List LabelSet → List String
  | [] => []
  | s :: ss => leads s ++ if op = .union then leadsOfAll ss else []

end

end LabelSet

/-- The most cards that labels stand for, if the deck of each parameter is bounded. -/
def Setup.most (setup : Setup) : List String → Nat
  | [] => 0
  | s :: ss => (if setup.contains (normalize s) then maxCount else 1) + setup.most ss

/-- Decks whose size comes from an operation on sets, of labels that stand for too many cards
together or for an unchecked deck. -/
inductive Deck.Unchecked (setup : Setup) : Deck → Prop
  | set {op : SetOp} {parts : List LabelSet}
      (h : maxCount < setup.most (LabelSet.leadsOfFold op parts)) : Unchecked setup (.set op parts)
  | lead {op : SetOp} {parts : List LabelSet} {s : String}
      (hs : s ∈ LabelSet.leadsOfFold op parts) (h : Unchecked setup (.label s)) :
      Unchecked setup (.set op parts)
  | label {s : String} {d : Document} {deck : Deck} (hd : setup.get? (normalize s) = some d)
      (hdeck : Deck.ofDocument? d = some deck) (h : Unchecked setup deck) :
      Unchecked setup (.label s)
  | left {left right : Deck} {separator : Option String} (h : Unchecked setup left) :
      Unchecked setup (.zip left right separator)
  | right {left right : Deck} {separator : Option String} (h : Unchecked setup right) :
      Unchecked setup (.zip left right separator)
  | yes {test : Flag} {yes : Deck} {no : Option Deck} (h : Unchecked setup yes) :
      Unchecked setup (.cond test yes no)
  | no {test : Flag} {yes no : Deck} (h : Unchecked setup no) :
      Unchecked setup (.cond test yes (some no))

/-- A parameter whose deck is unchecked. -/
def Setup.Unchecked (setup : Setup) (name : String) : Prop :=
  ∃ d deck, setup.get? name = some d ∧ Deck.ofDocument? d = some deck ∧ deck.Unchecked setup

/-! ## Sizes that are checked -/

theorem toCount_le {what : Counted} {x : Float} {n : Nat} (h : toCount what x = .ok n) :
    n ≤ maxCount :=
  (toCount_eq_ok_iff.mp h).2.2

theorem checkSize_le {size : Nat} {s t : Run}
    (h : (Eval.ofExcept (checkSize size) : Eval Run Unit) s = .ok () t) : size ≤ maxCount := by
  unfold checkSize at h
  split at h
  · cases h
  · rename_i hle
    exact Nat.le_of_not_lt hle

theorem Deck.count_le {names : Names} {what : Counted} {q : Quantity} {run after : Run} {n : Nat}
    (h : count names what q run = .ok n after) : n ≤ maxCount := by
  unfold count Eval.onMemo at h
  split at h
  · rename_i hcount
    cases h
    obtain ⟨x, m, -, hn⟩ := Eval.exists_of_bind_ok hcount
    cases hx : toCount what x with
    | ok k =>
      rw [hx] at hn
      cases hn
      exact toCount_le hx
    | error e =>
      rw [hx] at hn
      cases hn
  · cases h

/-- What is gathered is checked after each deck, so the last check is one of all cards. -/
theorem gather_le {parts : List (Eval Run (List String))} {size : Nat} {run left : Run}
    {cards : List String} (hsize : size ≤ maxCount)
    (h : gather size parts run = .ok cards left) : size + cards.length ≤ maxCount := by
  induction parts generalizing size run cards left with
  | nil =>
    cases h
    exact hsize
  | cons part parts ih =>
    obtain ⟨first, after, -, hrest⟩ := Eval.exists_of_bind_ok h
    obtain ⟨_, same, hcheck, hrest⟩ := Eval.exists_of_bind_ok hrest
    obtain ⟨others, final, hothers, hend⟩ := Eval.exists_of_bind_ok hrest
    cases hend
    have := ih (checkSize_le hcheck) hothers
    rw [List.length_append]
    omega

theorem gatherPicked_le {groups : Array (Eval Run (List String))} {size n : Nat} {run left : Run}
    {cards : List String} (hsize : size ≤ maxCount)
    (h : gatherPicked groups size n run = .ok cards left) : size + cards.length ≤ maxCount := by
  induction n generalizing size run cards left with
  | zero =>
    cases h
    exact hsize
  | succ n ih =>
    obtain ⟨i, before, -, hrest⟩ := Eval.exists_of_bind_ok h
    obtain ⟨first, after, -, hrest⟩ := Eval.exists_of_bind_ok hrest
    obtain ⟨_, same, hcheck, hrest⟩ := Eval.exists_of_bind_ok hrest
    obtain ⟨others, final, hothers, hend⟩ := Eval.exists_of_bind_ok hrest
    cases hend
    have := ih (checkSize_le hcheck) hothers
    rw [List.length_append]
    omega

theorem length_zipPairs (separator : String) (left right : List String) :
    (zipPairs separator left right).length = max left.length right.length := by
  unfold zipPairs
  simp only [List.length_append, List.length_zipWith, List.length_drop]
  omega

theorem length_crossPairs (separator : String) (left right : List String) :
    (crossPairs separator left right).length = left.length * right.length := by
  unfold crossPairs
  simp only [List.length_flatMap, List.length_map, List.map_const', List.sum_replicate_nat]

/-! ## Sizes of sets -/

/-- Only a union adds labels. -/
theorem SetOp.length_apply_le (op : SetOp) (first second : List String) :
    (op.apply first second).length ≤
      first.length + if op = .union then second.length else 0 := by
  cases op with
  | union =>
    have := length_distinct_le (first ++ second)
    rw [List.length_append] at this
    exact this
  | intersect => exact List.length_filter_le _ _
  | except => exact List.length_filter_le _ _

/-- Labels that stand for so many cards together at most, if what is known has a property. -/
inductive LabelsFit (I : Memo → Prop) (look : DeckLook) : List String → Nat → Prop
  | nil : LabelsFit I look [] 0
  | cons {l : String} {ls : List String} {k n : Nat}
      (hl : ∀ run cards t, I run.memo → cardsOf look l run = .ok cards t → cards.length ≤ k)
      (hls : LabelsFit I look ls n) : LabelsFit I look (l :: ls) (k + n)

theorem LabelsFit.split {I : Memo → Prop} {look : DeckLook} {ls ms : List String} {n : Nat}
    (h : LabelsFit I look (ls ++ ms) n) :
    ∃ k m, LabelsFit I look ls k ∧ LabelsFit I look ms m ∧ n = k + m := by
  induction ls generalizing n with
  | nil => exact ⟨0, n, .nil, h, (Nat.zero_add n).symm⟩
  | cons l ls ih =>
    cases h with
    | cons hl hls =>
      obtain ⟨k, m, hk, hm, rfl⟩ := ih hls
      exact ⟨_, m, .cons hl hk, hm, (Nat.add_assoc _ k m).symm⟩

namespace LabelSet

section

variable {I : Memo → Prop} {look : DeckLook}

mutual

/-- A set has no more labels than those that it is made of stand for. -/
theorem eval_le (hkeeps : ∀ name, Keeps I (Option (List String)) (look name)) :
    ∀ (s : LabelSet) {run t : Run} {labels : List String} {n : Nat}, I run.memo →
      LabelsFit I look (leads s) n → s.eval look run = .ok labels t → labels.length ≤ n
  | .label s, run, t, labels, n, hrun, hleads, hok => by
    rw [eval] at hok
    obtain ⟨cards, after, hcards, hend⟩ := Eval.exists_of_bind_ok hok
    cases hend
    rw [leads] at hleads
    cases hleads with
    | cons hl hls =>
      exact Nat.le_trans (length_distinct_le cards)
        (Nat.le_add_right_of_le (hl run cards t hrun hcards))
  | .list parts, run, t, labels, n, hrun, hleads, hok => by
    rw [eval] at hok
    rw [leads] at hleads
    have := evalFrom_le hkeeps .union [] parts hrun (by simpa using hleads) hok
    simpa using this
  | .fold op parts, run, t, labels, n, hrun, hleads, hok => by
    rw [eval] at hok
    rw [leads] at hleads
    exact evalFold_le hkeeps op parts hrun hleads hok

theorem evalFold_le (hkeeps : ∀ name, Keeps I (Option (List String)) (look name)) (op : SetOp) :
    ∀ (parts : List LabelSet) {run t : Run} {labels : List String} {n : Nat}, I run.memo →
      LabelsFit I look (leadsOfFold op parts) n → evalFold look op parts run = .ok labels t →
      labels.length ≤ n
  | [], run, t, labels, n, _, _, hok => by
    rw [evalFold] at hok
    cases hok
    exact Nat.zero_le _
  | s :: ss, run, t, labels, n, hrun, hleads, hok => by
    rw [evalFold] at hok
    obtain ⟨first, after, hfirst, hrest⟩ := Eval.exists_of_bind_ok hok
    rw [leadsOfFold] at hleads
    obtain ⟨k, m, hk, hm, rfl⟩ := hleads.split
    have hle := eval_le hkeeps s hrun hk hfirst
    have hafter : I after.memo := (eval_has Keeps.composes hkeeps s).ok hrun hfirst
    have := evalFrom_le hkeeps op first ss hafter hm hrest
    omega

theorem evalFrom_le (hkeeps : ∀ name, Keeps I (Option (List String)) (look name)) (op : SetOp) :
    ∀ (first : List String) (parts : List LabelSet) {run t : Run} {labels : List String} {n : Nat},
      I run.memo → LabelsFit I look (if op = .union then leadsOfAll parts else []) n →
      evalFrom look op first parts run = .ok labels t → labels.length ≤ first.length + n
  | first, [], run, t, labels, n, _, _, hok => by
    rw [evalFrom] at hok
    cases hok
    exact Nat.le_add_right _ _
  | first, s :: ss, run, t, labels, n, hrun, hleads, hok => by
    rw [evalFrom] at hok
    obtain ⟨more, after, hmore, hrest⟩ := Eval.exists_of_bind_ok hok
    have hafter : I after.memo := (eval_has Keeps.composes hkeeps s).ok hrun hmore
    have happly := op.length_apply_le first more
    by_cases hop : op = .union
    · simp only [hop, if_true, leadsOfAll] at hleads happly hrest
      obtain ⟨k, m, hk, hm, rfl⟩ := hleads.split
      have hle := eval_le hkeeps s hrun hk hmore
      have := evalFrom_le hkeeps _ _ ss hafter (by simpa using hm) hrest
      omega
    · simp only [hop, if_false] at hleads happly
      have := evalFrom_le hkeeps op _ ss hafter (by simpa [hop] using hleads) hrest
      omega

end

end

end LabelSet

/-- What is known of the sizes of decks: parameters whose deck is checked have no more than the
largest count of cards. -/
def SizesKnown (setup : Setup) (m : Memo) : Prop :=
  ∀ name cards, m.get? name = some (.deck cards) →
    setup.get? name ≠ none ∧ (¬ setup.Unchecked name → cards.length ≤ maxCount)

/-- Look-ups that keep what is known of sizes, and find no more cards than that. -/
structure Sized (setup : Setup) (look : DeckLook) : Prop where
  keeps : ∀ name, Keeps (SizesKnown setup) (Option (List String)) (look name)
  found : ∀ name s cards t, SizesKnown setup s.memo → look name s = .ok (some cards) t →
    setup.get? name ≠ none ∧ (¬ setup.Unchecked name → cards.length ≤ maxCount)

section

variable {setup : Setup} {look : DeckLook}

theorem Setup.most_singleton_le (setup : Setup) (s : String) : setup.most [s] ≤ maxCount := by
  rw [most, most]
  split <;> decide

theorem cardsOf_le (h : Sized setup look) {s : String} {run t : Run} {cards : List String}
    (hrun : SizesKnown setup run.memo) (hs : ¬ setup.Unchecked (normalize s))
    (hcards : cardsOf look s run = .ok cards t) : cards.length ≤ setup.most [s] := by
  obtain ⟨found, after, hfound, hend⟩ := Eval.exists_of_bind_ok hcards
  rw [Setup.most, Setup.most]
  cases found with
  | some deck =>
    cases hend
    obtain ⟨hnamed, hle⟩ := h.found _ _ _ _ hrun hfound
    have hcontains : setup.contains (normalize s) = true := by
      rw [Setup.contains, ByName.has, Option.isSome_iff_ne_none]
      exact hnamed
    rw [if_pos hcontains]
    exact hle hs
  | none =>
    cases hend
    rw [List.length_singleton]
    split <;> decide

/-- Checked labels stand for no more cards than parameters and labels can have. -/
theorem labelsFit_most (h : Sized setup look) {labels : List String}
    (hlabels : ∀ l ∈ labels, ¬ setup.Unchecked (normalize l)) :
    LabelsFit (SizesKnown setup) look labels (setup.most labels) := by
  induction labels with
  | nil => exact .nil
  | cons l labels ih =>
    have hl : ¬ setup.Unchecked (normalize l) := hlabels l List.mem_cons_self
    refine .cons (fun run cards t hrun hcards => cardsOf_le h hrun hl hcards) ?_
    exact ih fun l hl => hlabels l (List.mem_cons_of_mem _ hl)

end

/-! ## Sizes of decks -/

namespace Deck

variable {setup : Setup} {chain : Chain}

/-- A deck that is not unchecked is no larger than the largest count. Counts bound what is taken of
a deck, so only pairs and choices depend on the sizes of their parts. -/
theorem build_le (hnames : (Names.within setup chain).Keep (SizesKnown setup))
    (hsized : Sized setup (deckOf setup chain)) :
    ∀ (d : Deck) {run final : Run} {cards : List String}, SizesKnown setup run.memo →
      ¬ d.Unchecked setup → d.build (.within setup chain) run = .ok cards final →
      cards.length ≤ maxCount
  | .label s, run, final, cards, hrun, hd, h => by
    rw [build] at h
    have hs : ¬ setup.Unchecked (normalize s) := by
      rintro ⟨d, deck, hget, hdeck, hun⟩
      exact hd (.label hget hdeck hun)
    exact Nat.le_trans (cardsOf_le hsized hrun hs h) (setup.most_singleton_le s)
  | .concat parts, run, final, cards, _, _, h => by
    rw [build] at h
    simpa using gather_le (Nat.zero_le _) h
  | .choose n source, run, final, cards, _, _, h => by
    obtain ⟨amount, S, after, ⟨_, hcount, -⟩, hchosen, -⟩ := choose_means h
    rw [hchosen.length]
    exact count_le hcount
  | .chooseGroups n groups, run, final, cards, _, _, h => by
    rw [build_chooseGroups] at h
    obtain ⟨amount, after, -, hrest⟩ := Eval.exists_of_bind_ok h
    obtain ⟨_, same, -, hrest⟩ := Eval.exists_of_bind_ok hrest
    obtain ⟨places, before, -, hend⟩ := Eval.exists_of_bind_ok hrest
    simpa using gather_le (Nat.zero_le _) hend
  | .draw n source, run, final, cards, _, _, h => by
    obtain ⟨amount, S, after, ⟨_, hcount, -⟩, ⟨hlength, -⟩, -⟩ := draw_means h
    rw [hlength]
    exact count_le hcount
  | .drawGroups n groups, run, final, cards, _, _, h => by
    rw [build] at h
    obtain ⟨amount, after, -, hend⟩ := Eval.exists_of_bind_ok h
    simpa using gatherPicked_le (Nat.zero_le _) hend
  | .duplicate n kinds source, run, final, cards, _, _, h => by
    obtain ⟨amount, before, k, S, after, chosen, hcount, -, -, ⟨hlength, -⟩, -⟩ := duplicate_means h
    rw [hlength]
    exact count_le hcount
  | .first n source, run, final, cards, _, _, h => by
    obtain ⟨amount, S, ⟨_, hcount, -⟩, -, hlength⟩ := first_means h
    rw [hlength]
    exact count_le hcount
  | .last n source, run, final, cards, _, _, h => by
    obtain ⟨amount, S, ⟨_, hcount, -⟩, -, hlength⟩ := last_means h
    rw [hlength]
    exact count_le hcount
  | .cross left right separator, run, final, cards, _, _, h => by
    rw [build_cross] at h
    obtain ⟨A, B, after, -, hrest⟩ := bothBuilt_of_bind h
    obtain ⟨_, same, hrefuse, hend⟩ := Eval.exists_of_bind_ok hrest
    obtain ⟨hle, -⟩ := Eval.refuse_ok hrefuse
    obtain ⟨hperm, -⟩ := shuffled_ok hend
    rw [hperm.length_eq, length_crossPairs]
    exact Nat.le_of_not_lt hle
  | .zip left right separator, run, final, cards, hrun, hd, h => by
    rw [build] at h
    obtain ⟨A, B, after, ⟨between, hleft, hright⟩, hrest⟩ := bothBuilt_of_bind h
    obtain ⟨A', _, hA, hrest⟩ := Eval.exists_of_bind_ok hrest
    obtain ⟨B', _, hB, hend⟩ := Eval.exists_of_bind_ok hrest
    cases hend
    have hbetween : SizesKnown setup between.memo := (hnames.build left).ok hrun hleft
    have hleft := build_le hnames hsized left hrun (fun hun => hd (.left hun)) hleft
    have hright := build_le hnames hsized right hbetween (fun hun => hd (.right hun)) hright
    rw [length_zipPairs, (shuffled_ok hA).1.length_eq, (shuffled_ok hB).1.length_eq]
    omega
  | .cond test yes no, run, final, cards, hrun, hd, h => by
    rw [build] at h
    obtain ⟨b, after, htest, hend⟩ := Eval.exists_of_bind_ok h
    have hafter : SizesKnown setup after.memo := (hnames.have.flag test).ok hrun htest
    cases b with
    | true => exact build_le hnames hsized yes hafter (fun hun => hd (.yes hun)) hend
    | false =>
      rw [if_neg Bool.false_ne_true] at hend
      cases no with
      | none =>
        rw [buildOr] at hend
        cases hend
        exact Nat.zero_le _
      | some no =>
        rw [buildOr] at hend
        exact build_le hnames hsized no hafter (fun hun => hd (.no hun)) hend
  | .set op parts, run, final, cards, hrun, hd, h => by
    rw [build] at h
    have hleads : ∀ l ∈ LabelSet.leadsOfFold op parts, ¬ setup.Unchecked (normalize l) := by
      rintro l hl ⟨d, deck, hget, hdeck, hun⟩
      exact hd (.lead hl (.label hget hdeck hun))
    have fit := labelsFit_most hsized hleads
    exact Nat.le_trans (LabelSet.evalFold_le hsized.keeps op parts hrun fit h)
      (Nat.le_of_not_lt fun hlt => hd (.set hlt))

end Deck

theorem Sized.within_keep {setup : Setup} {chain : Chain} (h : Sized setup (deckOf setup chain)) :
    (Names.within setup chain).Keep (SizesKnown setup) :=
  FindsDecks.within_keep ⟨h.keeps, h.found⟩

theorem deckOf_sized (setup : Setup) (chain : Chain) : Sized setup (deckOf setup chain) := by
  have finds : FindsDecks (fun name cards => setup.get? name ≠ none ∧
      (¬ setup.Unchecked name → cards.length ≤ maxCount)) (deckOf setup chain) := by
    refine deckOf_findsDecks (fun chain name d deck h hd hdeck s cards t hs hok => ?_) chain
    have hsized : Sized setup (deckOf setup chain) := ⟨h.keeps, h.found⟩
    refine ⟨by rw [hd]; simp, fun hname => ?_⟩
    exact Deck.build_le hsized.within_keep hsized deck hs
      (fun hun => hname ⟨d, deck, hd, hdeck, hun⟩) hok
  exact ⟨finds.keeps, finds.found⟩

end Dealer
