-- Deals. A deal rule deals its deck, all of it but what a limit leaves over, evenly
-- to those it is for, and tells each of them the cards of the own hand and of no
-- other. Who it is for is said by the answers that stand when the rule is done.
import Dealer.Proofs.Ensuring
import Dealer.Proofs.Telling
import Mathlib.Data.List.Forall2

namespace Dealer

variable {setup : Setup} {held : Holdings} {members : List String} {run final : Run}

/-! ## Who is dealt to -/

/-- One of some cards is accepted by a matcher. -/
def AcceptsOne (setup : Setup) (m : Matcher) (cards : List String) (run : Run) : Prop :=
  ∃ card ∈ cards, m.accepts (deckOf setup []) card run = .ok true run

/-- Asked for one of some cards, a matcher tells whether it accepts one. -/
theorem acceptsSome_ensures (setup : Setup) (m : Matcher) (cards : List String) :
    Ensures setup (m.acceptsSome (deckOf setup []) cards) fun final b =>
      AcceptsOne setup m cards final ↔ b = true := by
  induction cards with
  | nil =>
    apply Ensures.pure
    intro final
    simp [AcceptsOne]
  | cons card cards ih =>
    apply Ensures.bind (accepts_ensures setup m card)
    intro first
    cases first with
    | true =>
      apply Ensures.pure
      intro final hfirst
      simp only [iff_true]
      exact ⟨card, List.mem_cons_self .., hfirst.mpr rfl⟩
    | false =>
      apply ih.mono
      intro final b hrest hfirst
      rw [← hrest]
      constructor
      · rintro ⟨other, hother, haccepts⟩
        rcases List.mem_cons.mp hother with rfl | hother
        · cases hfirst.mp haccepts
        · exact ⟨other, hother, haccepts⟩
      · rintro ⟨other, hother, haccepts⟩
        exact ⟨other, List.mem_cons_of_mem _ hother, haccepts⟩

/-- Those who hold a card of a kind are the members of whose cards a matcher accepts one. -/
theorem holders_ensures (setup : Setup) (held : Holdings) (m : Matcher) (members : List String) :
    Ensures setup (holders (.of setup) held m members) fun final found =>
      ∀ person, person ∈ found ↔ person ∈ members ∧ AcceptsOne setup m (held.of person) final := by
  induction members with
  | nil =>
    apply Ensures.pure
    intro final person
    simp
  | cons member members ih =>
    apply Ensures.bind (acceptsSome_ensures setup m (held.of member))
    intro b
    apply Ensures.bind ih
    intro others
    apply Ensures.pure
    intro final hothers hfirst person
    rw [mem_cons_if, hothers, ← hfirst, List.mem_cons]
    constructor
    · rintro (⟨haccepts, rfl⟩ | ⟨hperson, haccepts⟩)
      · exact ⟨Or.inl rfl, haccepts⟩
      · exact ⟨Or.inr hperson, haccepts⟩
    · rintro ⟨rfl | hperson, haccepts⟩
      · exact Or.inl ⟨haccepts, rfl⟩
      · exact Or.inr ⟨hperson, haccepts⟩

/-- A rule is for every member, or for those who hold a card that its matcher accepts. -/
theorem recipientsOf_ensures (setup : Setup) (held : Holdings) (members : List String)
    (m : Option Matcher) :
    Ensures setup (recipientsOf (.of setup) held members m) fun final found =>
      ∀ person, person ∈ found ↔
        person ∈ members ∧ ∀ matcher ∈ m, AcceptsOne setup matcher (held.of person) final := by
  cases m with
  | none =>
    apply Ensures.pure
    intro final person
    simp
  | some m =>
    apply (holders_ensures setup held m members).mono
    intro final found hfound person
    rw [hfound]
    simp

/-! ## Limits and sizes -/

theorem limitOf_pos {names : Names} {q : Option Quantity} {n : Nat}
    (h : limitOf names q run = .ok (some n) final) : 0 < n := by
  cases q with
  | none => cases h
  | some q =>
    obtain ⟨k, r, _, h⟩ := Eval.exists_of_bind_ok h
    by_cases hk : k = 0
    · simp only [hk, if_true] at h
      cases h
    · simp only [hk, if_false] at h
      cases h
      exact Nat.pos_of_ne_zero hk

/-- A field tells that some members have so many cards each. -/
def TellsSize (size : Nat × List String) (field : Field) : Prop :=
  ∃ order, order.Perm size.2 ∧ field = ⟨itemCount size.1, ", ".intercalate order, false⟩

theorem sizeFields_ok {sizes : List (Nat × List String)} {fields : List Field}
    (h : sizeFields sizes run = .ok fields final) :
    List.Forall₂ TellsSize sizes fields ∧ Drawn run final := by
  induction sizes generalizing fields run with
  | nil =>
    cases h
    exact ⟨List.Forall₂.nil, rfl⟩
  | cons size sizes ih =>
    obtain ⟨order, r, horder, h⟩ := Eval.exists_of_bind_ok h
    obtain ⟨others, r', hothers, h⟩ := Eval.exists_of_bind_ok h
    cases h
    obtain ⟨hperm, hdrawn⟩ := shuffled_ok horder
    obtain ⟨hfields, hdrawn'⟩ := ih hothers
    exact ⟨List.Forall₂.cons ⟨order, hperm, rfl⟩ hfields, Eq.trans hdrawn' hdrawn⟩

theorem sizeFields_tidy (setup : Setup) (sizes : List (Nat × List String)) :
    Tidy setup [] (List Field) (sizeFields sizes) := by
  induction sizes with
  | nil => exact Tidy.composes.pure []
  | cons size sizes ih =>
    apply Tidy.composes.bind (Tidy.draw _)
    intro order
    apply Tidy.composes.bind ih
    intro others
    exact Tidy.composes.pure _

/-! ## What a deal does -/

/-- How a rule deals a deck, by the answers that stand when it is done. -/
structure DealtFairly (setup : Setup) (rule : DealRule) (members : List String) (held : Holdings)
    (deck : List String) (final : Run) (d : Dealt) : Prop where
  /-- Nobody has two hands. -/
  once : (d.hands.map Prod.fst).Nodup
  /-- The rule is for every member, or for those who held a card that its matcher accepts. -/
  recipients : ∀ person, person ∈ d.hands.map Prod.fst ↔
    person ∈ members ∧ ∀ m ∈ rule.recipients, AcceptsOne setup m (held.of person) final
  /-- No card of the deck is lost, and no card is new. -/
  conserved : (d.hands.flatMap Prod.snd ++ d.leftover).Perm deck
  even : ∀ hand ∈ d.hands, ∀ other ∈ d.hands, hand.2.length ≤ other.2.length + 1
  /-- No hand is larger than the limit, and cards are left over only where all hands are as large,
  or where there is none. -/
  limited : ∃ limit, limitOf (.of setup) rule.limit final = .ok limit final ∧
    (∀ n ∈ limit, 0 < n ∧ ∀ hand ∈ d.hands, hand.2.length ≤ n) ∧
    (d.leftover ≠ [] → d.hands = [] ∨ ∃ n ∈ limit, ∀ hand ∈ d.hands, hand.2.length = n)

/-- What is told of a deal. -/
structure Disclosed (moderator : Option String) (d : Dealt) (before after : Transcript) : Prop where
  /-- Who has cards is told the cards of the hand in one field. -/
  hands : ∀ hand ∈ d.hands, hand.2 ≠ [] →
    after.privately hand.1 = before.privately hand.1 ++ [⟨handName, lines hand.2, false⟩]
  /-- Who has none is told nothing. -/
  others : ∀ person, moderator ≠ some person → (∀ hand ∈ d.hands, hand.1 = person → hand.2 = []) →
    after.privately person = before.privately person
  /-- A moderator is told every hand in a field of its own, and the cards that nobody got. -/
  rollUp : ∀ person, moderator = some person →
    after.privately person = before.privately person
      ++ (d.hands.map fun hand => ⟨hand.1, listing hand.2, false⟩)
      ++ if d.leftover = [] then [] else [⟨undealtName, lines d.leftover, false⟩]
  /-- Everybody is told who has how many cards, and without a moderator how many nobody got. -/
  channel : ∃ sizes, List.Forall₂ TellsSize d.bySize sizes ∧
    after.channel = before.channel ++ sizes ++
      if moderator = none ∧ d.leftover ≠ []
      then [⟨undealtName, itemCount d.leftover.length, false⟩] else []

/-- A deal that was worked out: a deck in a random order, dealt to those that the rule is for. -/
theorem DealRule.dealing_ok {rule : DealRule} {names : Names} {d : Dealt}
    (h : rule.dealing names members held run = .ok d final) :
    ∃ deck built, rule.deal.build names run = .ok deck built ∧
    ∃ pile, pile.Perm deck ∧
    ∃ found before asked, recipientsOf names held members rule.recipients before = .ok found asked ∧
    ∃ recipients between limit, recipients.Perm found ∧ Drawn asked between ∧
      limitOf names rule.limit between = .ok limit final ∧
      d = .ofPile pile recipients limit := by
  obtain ⟨deck, built, hdeck, h⟩ := Eval.exists_of_bind_ok h
  obtain ⟨pile, before, hpile, h⟩ := Eval.exists_of_bind_ok h
  obtain ⟨found, asked, hfound, h⟩ := Eval.exists_of_bind_ok h
  obtain ⟨recipients, between, hrecipients, h⟩ := Eval.exists_of_bind_ok h
  obtain ⟨limit, after, hlimit, h⟩ := Eval.exists_of_bind_ok h
  cases h
  obtain ⟨hperm, hdrawn⟩ := shuffled_ok hrecipients
  exact ⟨deck, built, hdeck, pile, (shuffled_ok hpile).1, found, before, asked, hfound,
    recipients, between, limit, hperm, hdrawn, hlimit, rfl⟩

theorem dealtFairly_of_dealing {rule : DealRule} {d : Dealt} {left : Run}
    (hmembers : members.Nodup)
    (h : rule.dealing (.of setup) members held run = .ok d left) (hdrawn : Drawn left final) :
    ∃ deck built, rule.deal.build (.of setup) run = .ok deck built ∧
      DealtFairly setup rule members held deck final d := by
  obtain ⟨deck, built, hdeck, pile, hpile, found, before, asked, hfound, recipients, between,
    limit, hrecipients, hbetween, hlimit, rfl⟩ := DealRule.dealing_ok h
  have grown : Grows setup [] asked.memo final.memo := by
    have := (limitOf_stands setup rule.limit).tidy.grows_ok hlimit
    unfold Drawn at hbetween hdrawn
    rwa [← hbetween, hdrawn]
  have limitStands : limitOf (.of setup) rule.limit final = .ok limit final := by
    apply (limitOf_stands setup rule.limit).again _ _ _ hlimit
    show Grows setup [] left.memo final.memo
    rw [hdrawn]
    exact Grows.refl _
  refine ⟨deck, built, hdeck, ?_⟩
  constructor
  case once =>
    rw [Dealt.ofPile_names]
    exact hrecipients.nodup_iff.mpr ((recipientsOf_sublist hfound).nodup hmembers)
  case recipients =>
    intro person
    rw [Dealt.ofPile_names, hrecipients.mem_iff]
    have ensures := recipientsOf_ensures setup held members rule.recipients
    exact ensures.holds _ _ _ hfound final grown person
  case conserved => exact (Dealt.ofPile_perm pile recipients limit).trans hpile
  case even => exact fun hand hhand other hother => Dealt.ofPile_even hhand hother
  case limited =>
    refine ⟨limit, limitStands, fun n hn => ?_, fun hleft => ?_⟩
    · cases hn
      exact ⟨limitOf_pos hlimit, fun hand hhand => Dealt.ofPile_le_limit hhand⟩
    · rcases Dealt.ofPile_leftover hleft with rfl | ⟨n, rfl, hfull⟩
      · exact Or.inl (by rw [Dealt.ofPile_nil])
      · exact Or.inr ⟨n, rfl, hfull⟩

/-- Where nobody has two hands, a hand is all that its holder is told of. -/
theorem whispers_eq_of_mem {d : Dealt} {sizes : List Field} {hand : Hand}
    (once : (d.hands.map Prod.fst).Nodup) (hhand : hand ∈ d.hands) :
    Turn.whispers hand.1 (.dealt d sizes) = handFields hand.2 :=
  ByName.flatMap_named_of_mem handFields once hhand

theorem disclosed_of_tell {moderator : Option String} {d : Dealt} {sizes : List Field}
    {before : Transcript} (once : (d.hands.map Prod.fst).Nodup)
    (apart : ∀ person, moderator = some person → ∀ hand ∈ d.hands, hand.1 ≠ person)
    (hsizes : List.Forall₂ TellsSize d.bySize sizes) :
    Disclosed moderator d before (Turn.tell moderator before (.dealt d sizes)) := by
  have silent (person : String) (h : ∀ hand ∈ d.hands, hand.1 = person → hand.2 = []) :
      Turn.whispers person (.dealt d sizes) = [] := by
    unfold Turn.whispers
    rw [List.flatMap_eq_nil_iff]
    intro hand hhand
    by_cases hname : hand.1 = person
    · simp [hname, h hand hhand hname, handFields]
    · rw [if_neg hname]
  constructor
  case hands =>
    intro hand hhand hne
    have hmoderator : moderator ≠ some hand.1 := fun h => apart hand.1 h hand hhand rfl
    rw [Turn.tell_privately]
    simp [Turn.received, whispers_eq_of_mem once hhand, hmoderator, handFields, hne]
  case others =>
    intro person hperson hnone
    rw [Turn.tell_privately]
    simp [Turn.received, silent person hnone, hperson]
  case rollUp =>
    intro person hperson
    have none := silent person fun hand hhand hname =>
      absurd hname (apart person hperson hand hhand)
    rw [Turn.tell_privately]
    simp [Turn.received, none, hperson, Turn.rollUp, moderatorFields]
  case channel =>
    refine ⟨sizes, hsizes, ?_⟩
    rw [Turn.tell_channel]
    by_cases hm : moderator = none
    · by_cases hl : d.leftover = []
      · simp [Turn.heard, Turn.aloud, Turn.undealtCount, hm, hl]
      · simp [Turn.heard, Turn.aloud, Turn.undealtCount, hm, hl]
    · simp [Turn.heard, Turn.aloud, hm]

/-- A deal keeps its deck and tells nobody of other hands. What a rule deals is the deck that was
built for it, dealt evenly and within the limit to those that it is for, and each of them is told
the cards of the own hand. Only a moderator is told more. -/
theorem a_deal_keeps_its_deck_and_discloses_each_hand_to_its_holder (setup : Setup)
    (rule : DealRule) {members : List String} {moderator : Option String}
    (hmembers : members.Nodup) (apart : ∀ person ∈ moderator, person ∉ members)
    {game game' : Game} {run final : Run}
    (h : rule.run (.of setup) ⟨members, moderator⟩ game run = .ok game' final) :
    ∃ deck built d, rule.deal.build (.of setup) run = .ok deck built ∧
      DealtFairly setup rule members game.held deck final d ∧
      Disclosed moderator d game.told game'.told ∧
      game'.held = game.held.record d := by
  rw [DealRule.run_eq, map_eq_pure_bind] at h
  obtain ⟨turn, _, hturn, h⟩ := Eval.exists_of_bind_ok h
  obtain ⟨d, left, hd, hturn⟩ := Eval.exists_of_bind_ok hturn
  obtain ⟨sizes, _, hsizes, hturn⟩ := Eval.exists_of_bind_ok hturn
  cases hturn
  cases h
  obtain ⟨hfields, hdrawn⟩ := sizeFields_ok hsizes
  obtain ⟨deck, built, hdeck, fair⟩ := dealtFairly_of_dealing hmembers hd hdrawn
  refine ⟨deck, built, d, hdeck, fair, disclosed_of_tell fair.once ?_ hfields, rfl⟩
  intro person hperson hand hhand heq
  exact apart person hperson (heq ▸ DealRule.dealing_among hd hand hhand)

/-- Two cards are dealt, one at most to a member. -/
def oneCardEach : DealRule :=
  { deal := .concat [.label "a", .label "b"], limit := some (.number 1) }

/-- A deal in which one member gets one of two cards draws nothing for the sizes. -/
theorem turn_of_dealing_one {rule : DealRule} {names : Names} {held : Holdings}
    {members : List String} {run : Run}
    (h : rule.dealing names members held run =
      .ok ⟨[("p", ["a"])], ["b"]⟩ (.start { twoWords with pending := [5] })) :
    rule.turn names members held run =
      .ok (.dealt ⟨[("p", ["a"])], ["b"]⟩ [⟨"1 item", "p", false⟩])
        (.start { twoWords with pending := [5] }) := by
  have sizes : Dealt.bySize ⟨[("p", ["a"])], ["b"]⟩ = [(1, ["p"])] := by
    simp [Dealt.bySize, distinct, distinctFrom]
  have shown : sizeFields [(1, ["p"])] (.start { twoWords with pending := [5] }) =
      .ok [⟨"1 item", "p", false⟩] (.start { twoWords with pending := [5] }) := by
    decide +kernel
  rw [← sizes] at shown
  unfold DealRule.turn
  rw [Eval.bind_ok h, Eval.bind_ok shown]
  rfl

/-- One member gets one card, and the other card is left over. -/
theorem turns_oneCardEach :
    turns (.of .empty) ["p"] {} [.deal oneCardEach] (.start twoWords) =
      .ok [.dealt ⟨[("p", ["a"])], ["b"]⟩ [⟨"1 item", "p", false⟩]]
        (.start { twoWords with pending := [5] }) := by
  have dealt : oneCardEach.dealing (.of .empty) ["p"] {} (.start twoWords) =
      .ok ⟨[("p", ["a"])], ["b"]⟩ (.start { twoWords with pending := [5] }) := by
    simp only [Names.of, Names.within, deckOf_eq_lookUp Setup.empty []]
    decide +kernel
  have guarded : (Rule.deal oneCardEach).guarded (.of .empty) ["p"] {} (.start twoWords) =
      oneCardEach.turn (.of .empty) ["p"] {} (.start twoWords) := rfl
  rw [turn_of_dealing_one dealt] at guarded
  unfold turns
  rw [Eval.bind_ok guarded]
  rfl

theorem play_oneCardEach :
    play .empty ⟨["p"], some "m"⟩ [.deal oneCardEach] (.start twoWords) =
      .ok ⟨[⟨"1 item", "p", false⟩],
          [("m", [⟨"p", "a", false⟩, ⟨"Undealt", "b", false⟩]),
            ("p", [⟨"You were dealt", "a", false⟩])]⟩
        (.start { twoWords with pending := [5] }) := by
  rw [play_eq, map_eq_pure_bind, Eval.bind_ok turns_oneCardEach]
  decide +kernel

/-- A game in which one member was dealt a key. -/
def oneKey : Game := { held := ⟨[("p", ["key"])], [("p", ["key"])], ["key"], ["key"]⟩ }

/-- Who has the key gets one card, and the moderator sees the other card. -/
theorem who_has_the_key_gets_a_card :
    ["p", "q"].Nodup ∧ (∀ person ∈ some "m", person ∉ ["p", "q"]) ∧
    ∃ game', DealRule.run { oneCardEach with recipients := some (.text "key") } (.of .empty)
        ⟨["p", "q"], some "m"⟩ oneKey (.start twoWords) =
      .ok game' (.start { twoWords with pending := [5] }) ∧
    game'.told = ⟨[⟨"1 item", "p", false⟩],
      [("m", [⟨"p", "a", false⟩, ⟨"Undealt", "b", false⟩]),
        ("p", [⟨"You were dealt", "a", false⟩])]⟩ ∧
    ∃ deck d, DealtFairly .empty { oneCardEach with recipients := some (.text "key") } ["p", "q"]
        oneKey.held deck (.start { twoWords with pending := [5] }) d ∧
      Disclosed (some "m") d oneKey.told game'.told := by
  have distinct : ["p", "q"].Nodup := by decide
  have apart : ∀ person ∈ some "m", person ∉ ["p", "q"] := by decide
  have dealt : DealRule.dealing { oneCardEach with recipients := some (.text "key") }
        (.of .empty) ["p", "q"] oneKey.held (.start twoWords) =
      .ok ⟨[("p", ["a"])], ["b"]⟩ (.start { twoWords with pending := [5] }) := by
    simp only [Names.of, Names.within, deckOf_eq_lookUp Setup.empty []]
    decide +kernel
  have ran : DealRule.run { oneCardEach with recipients := some (.text "key") } (.of .empty)
        ⟨["p", "q"], some "m"⟩ oneKey (.start twoWords) =
      .ok (oneKey.after (some "m") (.dealt ⟨[("p", ["a"])], ["b"]⟩ [⟨"1 item", "p", false⟩]))
        (.start { twoWords with pending := [5] }) := by
    rw [DealRule.run_eq, map_eq_pure_bind, Eval.bind_ok (turn_of_dealing_one dealt)]
    rfl
  obtain ⟨deck, _, d, _, fair, disclosed, _⟩ :=
    a_deal_keeps_its_deck_and_discloses_each_hand_to_its_holder .empty _ distinct apart ran
  refine ⟨distinct, apart, _, ran, ?_, deck, d, fair, disclosed⟩
  decide +kernel

end Dealer
