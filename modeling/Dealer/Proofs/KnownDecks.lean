-- What is known of decks. A deck that a memo has was built in the course of the game, so a
-- property of the decks that are built is one of all decks that are known, whatever was
-- resolved before.
import Dealer.Proofs.Answers

namespace Dealer

/-- All decks that are known of parameters have a property. -/
def DecksKnown (Q : String → List String → Prop) (m : Memo) : Prop :=
  ∀ name cards, m.get? name = some (.deck cards) → Q name cards

/-- Look-ups that find decks with a property, and leave only such decks behind. -/
structure FindsDecks (Q : String → List String → Prop) (look : DeckLook) : Prop where
  keeps : ∀ name, Keeps (DecksKnown Q) (Option (List String)) (look name)
  found : ∀ name s cards t, DecksKnown Q s.memo → look name s = .ok (some cards) t → Q name cards

variable {Q : String → List String → Prop} {setup : Setup} {chain : Chain}

theorem DecksKnown.start : DecksKnown Q [] := fun _ _ h => by cases h

theorem DecksKnown.put {m : Memo} {name : String} {v : Resolved} (hm : DecksKnown Q m)
    (hv : ∀ cards, v = .deck cards → Q name cards) : DecksKnown Q (m.put name v) := by
  intro other cards hcards
  rw [ByName.get?_put] at hcards
  split at hcards
  · rename_i heq
    cases hcards
    rw [heq]
    exact hv cards rfl
  · exact hm other cards hcards

/-- What is known of decks the names behind a chain keep, since numbers and flags are no decks. -/
theorem FindsDecks.within_keep (h : FindsDecks Q (deckOf setup chain)) :
    (Names.within setup chain).Keep (DecksKnown Q) where
  number := numberOf_keeps (fun _ _ x hm => hm.put fun _ hv => by cases hv) setup chain
  flag := flagOf_keeps (fun _ _ b hm => hm.put fun _ hv => by cases hv) setup chain
  deck := h.keeps

/-- A property that each parameter hands on from the decks behind it to its own deck is one of all
decks that are found. -/
theorem deckOf_findsDecks
    (hbuild : ∀ (chain : Chain) (name : String) (d : Document) (deck : Deck),
      FindsDecks Q (deckOf setup chain) → setup.get? name = some d →
      Deck.ofDocument? d = some deck → ∀ s cards t, DecksKnown Q s.memo →
      deck.build (.within setup chain) s = .ok cards t → Q name cards)
    (chain : Chain) : FindsDecks Q (deckOf setup chain) := by
  induction chain using chain_induction setup with
  | step chain ih =>
    have keeps {name : String} (hf : Fresh setup chain name) (deck : Deck) :
        Keeps (DecksKnown Q) (List String) (deck.build (.within setup (chain ++ [name]))) :=
      (ih name hf).within_keep.build deck
    refine ⟨fun name => ?_, fun name s cards t hs hok => ?_⟩
    · rw [deckOf_eq]
      refine Keeps.lookUp (fun hf deck => keeps hf deck) ?_
      intro hf d deck s cards t hd hdeck hs hb
      refine ((keeps hf deck).ok hs hb).put fun others hothers => ?_
      cases hothers
      exact hbuild _ name d deck (ih name hf) hd hdeck s cards t hs hb
    · rw [deckOf_eq] at hok
      cases Parameter.looksUp hok with
      | known hv hb =>
        rw [Parameter.deck_of_kept? hb] at hv
        exact hs name cards hv
      | resolved hm hf hd hdeck hb => exact hbuild _ name _ _ (ih name hf) hd hdeck s _ _ hs hb

/-- In every game all decks that are known have such a property. -/
theorem Reached.decksKnown {m : Memo} (hm : Reached setup m)
    (h : FindsDecks Q (deckOf setup [])) : DecksKnown Q m :=
  hm.holds DecksKnown.start h.within_keep

end Dealer
