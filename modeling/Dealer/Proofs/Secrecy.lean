-- Secrecy. Which cards a deck of labels holds shows in the hands alone. Two games that
-- deal other labels, but as many, draw the same, fail alike, and tell everybody the
-- same: the labels count only by their number.
import Dealer.Proofs.Dealing

namespace Dealer

variable {α β γ δ : Type}

/-! ## Shuffles and the number of items -/

theorem Generator.shuffleDown_snd (i : Nat) (items : Array α) (others : Array β) (g : Generator) :
    (shuffleDown i items g).2 = (shuffleDown i others g).2 := by
  induction i generalizing items others g with
  | zero => rfl
  | succ i ih =>
    unfold shuffleDown
    obtain ⟨j, g'⟩ := g.below .w32 (i + 2)
    exact ih _ _ _

/-- What a shuffle draws depends on the number of the items only. -/
theorem Generator.shuffle_snd {items : List α} {others : List β}
    (h : items.length = others.length) (g : Generator) :
    (shuffle items g).2 = (shuffle others g).2 := by
  unfold shuffle
  rw [h]
  exact shuffleDown_snd _ _ _ g

/-! ## Two evaluations side by side -/

/-- The empty setup has nothing that can become known. -/
theorem Grows.eq_nil_of_empty {chain : Chain} {m : Memo} (h : Grows .empty chain [] m) :
    m = [] := by
  cases m with
  | nil => rfl
  | cons e rest =>
    rcases h.news e.1 e.2 (ByName.get?_first e.1 e.2 rest) with known | ⟨_, d, hd, _⟩
    · cases known
    · cases hd

/-- Results that differ in their values at most. Nothing is known of parameters after them. -/
inductive AlikeResults (R : α → β → Prop) :
    EStateM.Result EvalError Run α → EStateM.Result EvalError Run β → Prop
  | ok {a : α} {b : β} {g : Generator} (h : R a b) :
      AlikeResults R (.ok a (.start g)) (.ok b (.start g))
  | error {e : EvalError} {run : Run} : AlikeResults R (.error e run) (.error e run)

/-- From the same generator two evaluations have results that differ in their values at most. -/
def Alike (R : α → β → Prop) (x : Eval Run α) (y : Eval Run β) : Prop :=
  ∀ g, AlikeResults R (x (.start g)) (y (.start g))

namespace Alike

variable {R : α → β → Prop} {S : γ → δ → Prop}

theorem pure {a : α} {b : β} (h : R a b) : Alike R (Pure.pure a) (Pure.pure b) :=
  fun _ => .ok h

theorem bind {x : Eval Run α} {y : Eval Run β} {f : α → Eval Run γ} {f' : β → Eval Run δ}
    (h : Alike R x y) (hf : ∀ a b, R a b → Alike S (f a) (f' b)) :
    Alike S (x >>= f) (y >>= f') := by
  intro g
  have first := h g
  generalize hx : x (.start g) = r at first
  generalize hy : y (.start g) = r' at first
  cases first with
  | ok hab =>
    rw [Eval.bind_ok hx, Eval.bind_ok hy]
    exact hf _ _ hab _
  | error =>
    rw [Eval.bind_error hx, Eval.bind_error hy]
    exact .error

/-- An evaluation is like itself. -/
theorem same {x : Eval Run α} (h : Tidy .empty [] α x) : Alike Eq x x := by
  intro g
  have grown := h.grows (.start g)
  generalize x (.start g) = r at grown
  cases r with
  | ok a run =>
    obtain ⟨m, g'⟩ := run
    have blank : m = [] := grown.eq_nil_of_empty
    rw [blank]
    exact .ok rfl
  | error e run => exact .error

theorem shuffled {items : List α} {others : List β} (h : items.length = others.length) :
    Alike (fun a b => a.length = b.length) (shuffled items) (shuffled others) := by
  intro g
  have hlength : (Generator.shuffle items g).1.length = (Generator.shuffle others g).1.length := by
    rw [(Generator.shuffle_perm items g).length_eq, (Generator.shuffle_perm others g).length_eq, h]
  have hsnd := Generator.shuffle_snd h g
  show AlikeResults _ (.ok (Generator.shuffle items g).1 (.start (Generator.shuffle items g).2))
    (.ok (Generator.shuffle others g).1 (.start (Generator.shuffle others g).2))
  rw [hsnd]
  exact .ok hlength

end Alike

/-! ## Decks of labels -/

/-- Without parameters a label is one card. -/
theorem cardsOf_empty (label : String) (g : Generator) :
    cardsOf (deckOf .empty []) label (.start g) = .ok [normalize label] (.start g) := by
  have absent : deckOf .empty [] (normalize label) (.start g) = .ok none (.start g) := by
    rw [deckOf_eq]
    exact Parameter.lookUp_of_absent rfl (List.not_mem_nil) rfl
  unfold cardsOf
  rw [Eval.bind_ok absent]
  rfl

theorem gather_alike {labels labels' : List String} (h : labels.length = labels'.length)
    (size : Nat) :
    Alike (fun a b => a.length = b.length)
      (gather size ((labels.map Deck.label).map (Deck.build (.of .empty))))
      (gather size ((labels'.map Deck.label).map (Deck.build (.of .empty)))) := by
  induction labels generalizing labels' size with
  | nil =>
    cases labels' with
    | nil => exact Alike.pure rfl
    | cons => cases h
  | cons label labels ih =>
    cases labels' with
    | nil => cases h
    | cons label' labels' =>
      have first : Alike (fun a b => a.length = b.length) (Deck.build (.of .empty) (.label label))
          (Deck.build (.of .empty) (.label label')) := by
        intro g
        rw [Deck.build, Deck.build]
        show AlikeResults _ (cardsOf (deckOf .empty []) label (.start g))
          (cardsOf (deckOf .empty []) label' (.start g))
        rw [cardsOf_empty, cardsOf_empty]
        exact .ok rfl
      have checked (n : Nat) :
          Tidy .empty [] Unit (Eval.ofExcept (checkSize n) : Eval Run Unit) :=
        Tidy.composes.ofExcept fun _ he => checkSize_error he
      apply Alike.bind first
      intro cards cards' hcards
      rw [hcards]
      apply Alike.bind (Alike.same (checked _))
      rintro _ _ rfl
      apply Alike.bind (ih (Nat.succ.inj h) _)
      intro others others' hothers
      apply Alike.pure
      rw [List.length_append, List.length_append, hcards, hothers]

/-! ## Deals of the same sizes -/

/-- The same members were dealt as many cards each, and as many cards were left over. -/
structure SameSizes (d d' : Dealt) : Prop where
  hands : d.hands.map (fun hand => (hand.1, hand.2.length)) =
    d'.hands.map fun hand => (hand.1, hand.2.length)
  leftover : d.leftover.length = d'.leftover.length

theorem dealRounds_lengths {pile pile' : List String} (h : pile.length = pile'.length)
    (m rounds : Nat) :
    (dealRounds m rounds pile).1.map List.length =
      (dealRounds m rounds pile').1.map List.length := by
  apply List.ext_getElem?
  intro j
  rw [List.getElem?_map, List.getElem?_map]
  by_cases hj : j < m
  · rw [dealRounds_getElem? _ _ _ hj, dealRounds_getElem? _ _ _ hj, Option.map_some,
      Option.map_some, length_everyNth _ (by omega), length_everyNth _ (by omega), h]
  · rw [List.getElem?_eq_none, List.getElem?_eq_none]
    · rw [length_dealRounds]
      omega
    · rw [length_dealRounds]
      omega

theorem sameSizes_ofPile {pile pile' : List String} (h : pile.length = pile'.length)
    (members : List String) (limit : Option Nat) :
    SameSizes (.ofPile pile members limit) (.ofPile pile' members limit) := by
  by_cases hm : members = []
  · rw [hm, Dealt.ofPile_nil, Dealt.ofPile_nil]
    exact ⟨rfl, h⟩
  · rw [Dealt.ofPile_of_ne_nil hm, Dealt.ofPile_of_ne_nil hm, h]
    have sizes (hands : List (List String)) :
        (members.zip hands).map (fun hand => (hand.1, hand.2.length)) =
          members.zip (hands.map List.length) := by
      rw [List.zip_map_right]
      rfl
    constructor
    · rw [sizes, sizes, dealRounds_lengths h]
    · rw [List.length_drop, List.length_drop, h]

theorem SameSizes.bySize {d d' : Dealt} (h : SameSizes d d') : d.bySize = d'.bySize := by
  have known (d : Dealt) : d.bySize =
      let sizes := d.hands.map fun hand => (hand.1, hand.2.length)
      ((distinct (sizes.map Prod.snd)).mergeSort fun a b => decide (b ≤ a)).map fun n =>
        (n, (sizes.filter fun size => size.2 = n).map Prod.fst) := by
    simp [Dealt.bySize, List.filter_map, Function.comp_def]
  rw [known, known, h.hands]

/-! ## Rules and turns that differ in labels -/

/-- Two rules that deal as many labels each, with the same limit and without a guard. -/
inductive LikeDeals : Rule → Rule → Prop
  | labels {labels labels' : List String} (h : labels.length = labels'.length)
      (limit : Option Quantity) (cumulative cumulative' : Option Flag) :
      LikeDeals (.deal { deal := .concat (labels.map Deck.label), limit, cumulative })
        (.deal { deal := .concat (labels'.map Deck.label), limit, cumulative := cumulative' })

/-- Two turns that deal hands of the same sizes. -/
inductive LikeTurns : Turn → Turn → Prop
  | dealt {d d' : Dealt} (h : SameSizes d d') (sizes : List Field) :
      LikeTurns (.dealt d sizes) (.dealt d' sizes)

theorem LikeDeals.guarded {rule rule' : Rule} (h : LikeDeals rule rule') (members : List String)
    (held held' : Holdings) :
    Alike LikeTurns (rule.guarded (.of .empty) members held)
      (rule'.guarded (.of .empty) members held') := by
  cases h with
  | labels h limit cumulative cumulative' =>
    -- Neither rule has a guard, so each does what it does.
    show Alike LikeTurns (DealRule.turn _ _ _ _) (DealRule.turn _ _ _ _)
    have decks := gather_alike h 0
    rw [← Deck.builders_eq_map, ← Deck.builders_eq_map] at decks
    unfold DealRule.turn DealRule.dealing
    simp only [bind_assoc, Deck.build]
    apply Alike.bind decks
    intro deck deck' hdeck
    apply Alike.bind (Alike.shuffled hdeck)
    intro pile pile' hpile
    apply Alike.bind (Alike.same (Tidy.composes.pure members))
    rintro found _ rfl
    apply Alike.bind (Alike.same (Tidy.draw _))
    rintro recipients _ rfl
    apply Alike.bind (Alike.same (limitOf_stands .empty limit).tidy)
    rintro most _ rfl
    have sizes := sameSizes_ofPile hpile recipients most
    simp only [pure_bind]
    rw [sizes.bySize]
    apply Alike.bind (Alike.same (sizeFields_tidy .empty _))
    rintro fields _ rfl
    exact Alike.pure (.dealt sizes fields)

/-- Rule by rule the turns have the same sizes. -/
theorem turns_alike {rules rules' : List Rule} (h : List.Forall₂ LikeDeals rules rules')
    (members : List String) (held held' : Holdings) :
    Alike (List.Forall₂ LikeTurns) (turns (.of .empty) members held rules)
      (turns (.of .empty) members held' rules') := by
  induction h generalizing held held' with
  | nil => exact Alike.pure .nil
  | cons hrule _ ih =>
    apply Alike.bind (hrule.guarded members held held')
    intro turn turn' hturn
    apply Alike.bind (ih _ _)
    intro others others' hothers
    exact Alike.pure (.cons hturn hothers)

/-! ## What the turns tell -/

/-- The hands that a person is dealt in a turn. -/
def Turn.dealtTo (person : String) : Turn → List (List String)
  | .dealt d _ => (d.hands.filter fun hand => hand.1 = person).map Prod.snd
  | .shown _ => []
  | .told _ => []

namespace LikeTurns

variable {turn turn' : Turn}

theorem heard_eq (h : LikeTurns turn turn') (moderator : Option String) :
    turn.heard moderator = turn'.heard moderator := by
  cases h with
  | @dealt d d' h sizes =>
    have hnil : d.leftover = [] ↔ d'.leftover = [] := by
      rw [← List.length_eq_zero_iff, ← List.length_eq_zero_iff, h.leftover]
    simp [Turn.heard, Turn.aloud, Turn.undealtCount, h.leftover, hnil]

/-- A person who was dealt the same was told the same. -/
theorem whispers_eq {person : String} (h : LikeTurns turn turn')
    (hdealt : turn.dealtTo person = turn'.dealtTo person) :
    turn.whispers person = turn'.whispers person := by
  have known (hands : List Hand) :
      (hands.flatMap fun hand => if hand.1 = person then handFields hand.2 else []) =
        ((hands.filter fun hand => hand.1 = person).map Prod.snd).flatMap handFields := by
    induction hands with
    | nil => rfl
    | cons hand hands ih =>
      by_cases hname : hand.1 = person
      · simp [hname, ih]
      · simp [hname, ih]
  cases h with
  | dealt h sizes =>
    simp only [Turn.dealtTo] at hdealt
    simp only [Turn.whispers, known, hdealt]

theorem length_whispers_eq (h : LikeTurns turn turn') (person : String) :
    (turn.whispers person).length = (turn'.whispers person).length := by
  -- Whether there is a field depends on the name and the size of a hand.
  have known (hands : List Hand) :
      (hands.flatMap fun hand => if hand.1 = person then handFields hand.2 else []).length =
        ((hands.map fun hand => (hand.1, hand.2.length)).countP fun size =>
          size.1 = person ∧ size.2 ≠ 0) := by
    induction hands with
    | nil => rfl
    | cons hand hands ih =>
      obtain ⟨name, cards⟩ := hand
      rw [List.flatMap_cons, List.length_append, ih, List.map_cons, List.countP_cons, Nat.add_comm]
      congr 1
      by_cases hname : name = person
      · by_cases hcards : cards = []
        · simp [handFields, hname, hcards]
        · simp [handFields, hname, hcards]
      · simp [hname]
  cases h with
  | dealt h sizes =>
    simp only [Turn.whispers, known]
    rw [h.hands]

theorem length_rollUp_eq (h : LikeTurns turn turn') :
    turn.rollUp.length = turn'.rollUp.length := by
  cases h with
  | @dealt d d' h sizes =>
    have hands : d.hands.length = d'.hands.length := by
      simpa using congrArg List.length h.hands
    have hnil : d.leftover = [] ↔ d'.leftover = [] := by
      rw [← List.length_eq_zero_iff, ← List.length_eq_zero_iff, h.leftover]
    by_cases hl : d'.leftover = []
    · simp [Turn.rollUp, moderatorFields, hands, hnil, hl]
    · simp [Turn.rollUp, moderatorFields, hands, hnil, hl]

theorem length_received_eq (h : LikeTurns turn turn') (moderator : Option String)
    (person : String) :
    (turn.received moderator person).length = (turn'.received moderator person).length := by
  unfold Turn.received
  rw [List.length_append, List.length_append, h.length_whispers_eq]
  by_cases hm : moderator = some person
  · simp [hm, h.length_rollUp_eq]
  · simp [hm]

end LikeTurns

/-! ## What two games show -/

/-- What may differ in what the turns of two games tell: the fields of those who were dealt other
cards, and those of a moderator. -/
structure ShowSizesOnly (ts ts' : List Turn) (moderator : Option String) (t t' : Transcript) :
    Prop where
  channel : t.channel = t'.channel
  /-- The same persons are told as many fields each. -/
  direct : t.direct.map (fun e => (e.1, e.2.length)) = t'.direct.map fun e => (e.1, e.2.length)
  /-- Who was dealt the same in every turn is told the same. -/
  own : ∀ person, moderator ≠ some person →
    ts.map (Turn.dealtTo person) = ts'.map (Turn.dealtTo person) →
      t.direct.get? person = t'.direct.get? person

theorem length_received_flatMap {ts ts' : List Turn} (h : List.Forall₂ LikeTurns ts ts')
    (moderator : Option String) (person : String) :
    (ts.flatMap (Turn.received moderator person)).length =
      (ts'.flatMap (Turn.received moderator person)).length := by
  induction h with
  | nil => rfl
  | cons hturn _ ih =>
    rw [List.flatMap_cons, List.flatMap_cons, List.length_append, List.length_append, ih,
      hturn.length_received_eq]

theorem heard_flatMap_eq {ts ts' : List Turn} (h : List.Forall₂ LikeTurns ts ts')
    (moderator : Option String) :
    ts.flatMap (Turn.heard moderator) = ts'.flatMap (Turn.heard moderator) := by
  induction h with
  | nil => rfl
  | cons hturn _ ih => rw [List.flatMap_cons, List.flatMap_cons, ih, hturn.heard_eq]

theorem received_flatMap_eq {ts ts' : List Turn} (h : List.Forall₂ LikeTurns ts ts')
    {moderator : Option String} {person : String} (hperson : moderator ≠ some person)
    (hdealt : ts.map (Turn.dealtTo person) = ts'.map (Turn.dealtTo person)) :
    ts.flatMap (Turn.received moderator person) = ts'.flatMap (Turn.received moderator person) := by
  induction h with
  | nil => rfl
  | cons hturn _ ih =>
    obtain ⟨hfirst, hrest⟩ := List.cons.inj hdealt
    rw [List.flatMap_cons, List.flatMap_cons, ih hrest]
    simp [Turn.received, hperson, hturn.whispers_eq hfirst]

theorem showSizesOnly_of_likeTurns {ts ts' : List Turn} (h : List.Forall₂ LikeTurns ts ts')
    (moderator : Option String) :
    ShowSizesOnly ts ts' moderator (ts.foldl (Game.after moderator) {}).told
      (ts'.foldl (Game.after moderator) {}).told := by
  have tended (turns : List Turn) : (turns.foldl (Game.after moderator) {}).told.Tended :=
    Game.told_foldl_after_tended moderator Transcript.Tended.empty turns
  constructor
  case channel => rw [Game.channel_from_start, Game.channel_from_start, heard_flatMap_eq h]
  case direct =>
    apply (tended ts).map_length_eq (tended ts')
    intro person
    rw [Game.privately_from_start, Game.privately_from_start,
      length_received_flatMap h moderator person]
  case own =>
    intro person hperson hdealt
    rw [(tended ts).get?_direct, (tended ts').get?_direct, Game.privately_from_start,
      Game.privately_from_start, received_flatMap_eq h hperson hdealt]

/-- Dealing tells nothing of a deck of labels but its size. Two lists of rules that deal other
labels, but as many, fail alike, or they draw the same, tell everybody the same aloud, and tell the
same persons as many fields in private. They tell a person the same whom they dealt the same, be it
a member or not, and however often a member is listed. -/
theorem dealing_tells_nothing_of_labels_but_their_number {rules rules' : List Rule}
    (h : List.Forall₂ LikeDeals rules rules') (members : List String) (moderator : Option String)
    (g : Generator) :
    match play .empty ⟨members, moderator⟩ rules (.start g),
      play .empty ⟨members, moderator⟩ rules' (.start g) with
    | .ok t left, .ok t' left' =>
      left = left' ∧ ∃ ts ts', turns (.of .empty) members {} rules (.start g) = .ok ts left ∧
        turns (.of .empty) members {} rules' (.start g) = .ok ts' left' ∧
        ShowSizesOnly ts ts' moderator t t'
    | .error e left, .error e' left' => e = e' ∧ left = left'
    | _, _ => False := by
  have alike := turns_alike h members {} {} g
  simp only [play_eq, map_eq_pure_bind]
  generalize hr : turns (.of .empty) members {} rules (.start g) = r at alike
  generalize hr' : turns (.of .empty) members {} rules' (.start g) = r' at alike
  cases alike with
  | ok hts =>
    rw [Eval.bind_ok hr, Eval.bind_ok hr']
    exact ⟨rfl, _, _, rfl, rfl, showSizesOnly_of_likeTurns hts moderator⟩
  | error =>
    rw [Eval.bind_error hr, Eval.bind_error hr']
    exact ⟨rfl, rfl⟩

/-- The deal of one card each with other labels. -/
def otherCardEach : DealRule :=
  { oneCardEach with deal := .concat [.label "c", .label "d"] }

/-- Whatever the labels are, one member is seen to have one card, and the moderator is told of a
hand and of what nobody got. -/
theorem other_labels_show_the_same_sizes :
    List.Forall₂ LikeDeals [.deal oneCardEach] [.deal otherCardEach] ∧
    ∃ t, play .empty ⟨["p"], some "m"⟩ [.deal otherCardEach] (.start twoWords) =
        .ok t (.start { twoWords with pending := [5] }) ∧
      t.channel = [⟨"1 item", "p", false⟩] ∧
      t.direct.map (fun e => (e.1, e.2.length)) = [("m", 2), ("p", 1)] := by
  have like : LikeDeals (.deal oneCardEach) (.deal otherCardEach) :=
    @LikeDeals.labels ["a", "b"] ["c", "d"] rfl (some (.number 1)) none none
  have both := dealing_tells_nothing_of_labels_but_their_number (.cons like .nil) ["p"] (some "m")
    twoWords
  rw [play_oneCardEach] at both
  cases h : play .empty ⟨["p"], some "m"⟩ [.deal otherCardEach] (.start twoWords) with
  | ok t left =>
    rw [h] at both
    obtain ⟨hleft, _, _, _, _, shown⟩ := both
    exact ⟨.cons like .nil, t, by rw [hleft], shown.channel.symm, shown.direct.symm⟩
  | error e left =>
    rw [h] at both
    exact both.elim

end Dealer
