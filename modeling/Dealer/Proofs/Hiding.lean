-- Hiding the own cards. A reveal may leave out the card that it is made for. It does
-- so card by card: what one card of a hand hides may be shown for another one. Only who
-- holds nothing but one card that the rule is for is never shown that card.
import Dealer.Proofs.Revealing

namespace Dealer

variable {setup : Setup} {rule : RevealRule} {hands : List Hand} {hand : Hand} {run final : Run}

/-! ## What is not hidden -/

/-- A hand has a card that a rule is for, and it is not this one. -/
def HasAnother (setup : Setup) (rule : RevealRule) (hand : Hand) (run : Run) (card : String) :
    Prop :=
  ∃ own ∈ hand.2, Accepts setup rule.audience own run ∧ own ≠ card

/-- An entry is of a card that a rule shows, and of another member who holds it. -/
def HeldElsewhere (setup : Setup) (rule : RevealRule) (hands : List Hand) (hand : Hand) (run : Run)
    (e : Entry) : Prop :=
  e.1 ≠ hand.1 ∧ (∃ cards, (e.1, cards) ∈ hands ∧ e.2 ∈ cards) ∧ Accepts setup rule.cards e.2 run

/-- Where no label stands in its place, a card is told of another member if the hand has a card
that it is not hidden for. -/
theorem entitled_hiding_iff (hlabel : rule.label = none) (e : Entry) :
    Entitled setup rule true hands hand run e ↔
      HeldElsewhere setup rule hands hand run e ∧ HasAnother setup rule hand run e.2 := by
  constructor
  · rintro ⟨own, hown, haudience, other, hother, hapart, theirs, htheirs, hcards, hhide, rfl⟩
    rw [hlabel]
    exact ⟨⟨hapart, ⟨other.2, hother, htheirs⟩, hcards⟩, own, hown, haudience, (hhide rfl).symm⟩
  · rintro ⟨⟨hapart, ⟨cards, hother, htheirs⟩, hcards⟩, own, hown, haudience, hne⟩
    refine ⟨own, hown, haudience, _, hother, hapart, e.2, htheirs, hcards, fun _ => hne.symm, ?_⟩
    rw [hlabel]
    rfl

/-! ## What is shown -/

/-- What a rule that hides the own cards shows of some hands to the holder of one. -/
structure ShownHiding (setup : Setup) (rule : RevealRule) (hands : List Hand) (hand : Hand)
    (run : Run) (entries : List Entry) : Prop where
  elsewhere : ∀ e ∈ entries, HeldElsewhere setup rule hands hand run e
  another : ∀ e ∈ entries, HasAnother setup rule hand run e.2
  /-- Who holds one card only that the rule is for, once or more often, is not shown that card. -/
  hidden : ∀ card, (∀ own ∈ hand.2, Accepts setup rule.audience own run → own = card) →
    ∀ e ∈ entries, e.2 ≠ card
  /-- Nothing else is hidden. -/
  complete : rule.limit = none → ∀ e, HeldElsewhere setup rule hands hand run e →
    HasAnother setup rule hand run e.2 → e ∈ entries

theorem Selection.shownHiding {limit : Option Nat} {entries : List Entry}
    (hlabel : rule.label = none) (hlimit : limitOf (.of setup) rule.limit run = .ok limit run)
    (h : Selection (Entitled setup rule true hands hand run) limit entries) :
    ShownHiding setup rule hands hand run entries := by
  have shown (e : Entry) (he : e ∈ entries) := (entitled_hiding_iff hlabel e).mp (h.of_kind e he)
  constructor
  case elsewhere => exact fun e he => (shown e he).1
  case another => exact fun e he => (shown e he).2
  case hidden =>
    intro card hall e he heq
    obtain ⟨-, own, hown, haudience, hne⟩ := shown e he
    exact hne ((hall own hown haudience).trans heq.symm)
  case complete =>
    intro hnone e helsewhere hanother
    rw [hnone] at hlimit
    cases hlimit
    exact (h.mem_iff e).mpr ((entitled_hiding_iff hlabel e).mpr ⟨helsewhere, hanother⟩)

/-- A reveal that hides the own cards hides a card only for itself. Whatever a holder is shown, the
hand has a card that the rule is for and that is another one. So an own card is shown to who holds
two different cards that the rule is for, if some other member holds it, and never to who holds no
other. -/
theorem a_hidden_card_is_shown_only_for_another_one (setup : Setup) (rule : RevealRule)
    (hlabel : rule.label = none) {game game' : Game} (hgame : game.held.Recorded) {run final : Run}
    (h : rule.run (.of setup) game run = .ok game' final)
    (hhide : flagOr (.of setup) false rule.hideSame final = .ok true final) :
    ∃ cumulative, flagOr (.of setup) false rule.cumulative final = .ok cumulative final ∧
      (∀ hand ∈ game.held.hands cumulative, ∃ entries,
        game'.told.privately hand.1 = game.told.privately hand.1 ++ entries.map Entry.field ∧
        ShownHiding setup rule (game.held.hands cumulative) hand final entries) ∧
      ∀ person ∉ (game.held.hands cumulative).names,
        game'.told.privately person = game.told.privately person := by
  obtain ⟨turn, hturn, rfl⟩ := (Rule.reveal rule).exists_turn (.of setup) ⟨[], none⟩ h
  obtain ⟨cumulative, _, limit, messages, hcumulative, hsame, hlimit, hmessages, rfl⟩ :=
    (rule.turn_ensures setup game.held).at_end hturn
  have once := hgame.names_nodup cumulative
  have revealed := revealed_of_messages game.told once hsame hlimit hmessages
  refine ⟨cumulative, hcumulative, fun hand hhand => ?_, revealed.others⟩
  obtain ⟨hideSame, limit, hsame, hlimit, told⟩ := revealed.holders
  rw [hhide] at hsame
  cases hsame
  obtain ⟨entries, selection, -, htold⟩ := told hand hhand
  exact ⟨entries, htold, selection.shownHiding hlabel hlimit⟩

theorem hides_showOtherCards :
    flagOr (.of .empty) false showOtherCards.hideSame (.start twoWords) =
      .ok true (.start twoWords) := by
  decide +kernel

/-- One of two members with an ace has a key, too, and the ace of the other is shown for it. -/
theorem an_ace_is_shown_for_a_key :
    afterAcesAndKey.held.Recorded ∧ showOtherCards.label = none ∧
    showOtherCards.run (.of .empty) afterAcesAndKey (.start twoWords) =
      .ok { afterAcesAndKey with told := otherCardsShown } (.start twoWords) ∧
    flagOr (.of .empty) false showOtherCards.hideSame (.start twoWords) =
      .ok true (.start twoWords) ∧
    flagOr (.of .empty) false showOtherCards.cumulative (.start twoWords) =
      .ok false (.start twoWords) ∧
    ("p", ["ace", "key"]) ∈ afterAcesAndKey.held.hands false ∧
    Accepts .empty showOtherCards.audience "ace" (.start twoWords) ∧
    otherCardsShown.privately "p" = [Entry.field ("q", "ace")] := by
  refine ⟨⟨[acesAndKey], rfl⟩, rfl, run_showOtherCards, hides_showOtherCards, rfl, ?_, ?_, ?_⟩
  · decide +kernel
  · rfl
  · decide +kernel

/-- The other member has nothing but an ace, and is shown no ace. -/
theorem nobody_is_shown_the_only_own_card :
    showOtherCards.label = none ∧ afterAcesAndKey.held.Recorded ∧
    showOtherCards.run (.of .empty) afterAcesAndKey (.start twoWords) =
      .ok { afterAcesAndKey with told := otherCardsShown } (.start twoWords) ∧
    flagOr (.of .empty) false showOtherCards.hideSame (.start twoWords) =
      .ok true (.start twoWords) ∧
    ∃ entries : List Entry, otherCardsShown.privately "q" = entries.map Entry.field ∧
      ∀ e ∈ entries, e.2 ≠ "ace" := by
  have recorded : afterAcesAndKey.held.Recorded := ⟨[acesAndKey], rfl⟩
  refine ⟨rfl, recorded, run_showOtherCards, hides_showOtherCards, ?_⟩
  obtain ⟨cumulative, hcumulative, shown, -⟩ :=
    a_hidden_card_is_shown_only_for_another_one .empty showOtherCards rfl recorded
      run_showOtherCards hides_showOtherCards
  cases hcumulative
  obtain ⟨entries, htold, hshown⟩ := shown ("q", ["ace"]) (by decide +kernel)
  refine ⟨entries, htold, hshown.hidden "ace" fun own hown _ => List.mem_singleton.mp hown⟩

end Dealer
