-- Reveals. A rule tells who holds a card of one kind which cards of another kind
-- the other members hold, each at most once, all of them or as many as a limit
-- allows. It tells nobody else anything, and nobody of the own cards.
import Dealer.Proofs.Ensuring
import Dealer.Proofs.Records
import Dealer.Proofs.Telling
import Mathlib.Data.List.Forall2

namespace Dealer

variable {setup : Setup} {run final : Run}

/-! ## What a hand entitles to -/

/-- For one card of a hand, an entry is told of another hand. It names the other holder, and a card
that the rule shows or the label in its place. -/
def ShownFor (setup : Setup) (rule : RevealRule) (hideSame : Bool) (card : String) (other : Hand)
    (run : Run) (e : Entry) : Prop :=
  ∃ theirs ∈ other.2, Accepts setup rule.cards theirs run ∧ (hideSame = true → theirs ≠ card) ∧
    e = (other.1, rule.label.getD theirs)

/-- The holder of a hand is entitled to an entry: for some card of the hand that the rule is for,
the entry is told of the hand of another member. -/
def Entitled (setup : Setup) (rule : RevealRule) (hideSame : Bool) (hands : List Hand)
    (holder : Hand) (run : Run) (e : Entry) : Prop :=
  ∃ card ∈ holder.2, Accepts setup rule.audience card run ∧
    ∃ other ∈ hands, other.1 ≠ holder.1 ∧ ShownFor setup rule hideSame card other run e

theorem revealedCards_ensures (setup : Setup) (rule : RevealRule) (hideSame : Bool)
    (card other : String) (cards : List String) :
    Ensures setup (revealedCards (.of setup) rule hideSame card other cards) fun final found =>
      ∀ e, e ∈ found ↔ ShownFor setup rule hideSame card (other, cards) final e := by
  induction cards with
  | nil =>
    apply Ensures.pure
    intro final e
    simp [ShownFor]
  | cons theirs cards ih =>
    -- A card that is hidden is not asked for. The others are.
    have first : Ensures setup
        (if hideSame && theirs = card then pure false
          else rule.cards.accepts (Names.of setup).deck theirs) fun final b =>
        b = true ↔ Accepts setup rule.cards theirs final ∧ (hideSame = true → theirs ≠ card) := by
      by_cases hsame : hideSame = true ∧ theirs = card
      · rw [if_pos (by simpa using hsame)]
        apply Ensures.pure
        simp [hsame]
      · rw [if_neg (by simpa using hsame)]
        apply (accepts_ensures setup rule.cards theirs).mono
        intro final b hb
        rw [hb]
        have apart : hideSame = true → theirs ≠ card := fun hhide heq => hsame ⟨hhide, heq⟩
        exact (and_iff_left apart).symm
    apply first.bind_ite
    intro b
    apply Ensures.bind ih
    intro others
    apply Ensures.pure
    intro final hothers hb e
    rw [mem_cons_if, hothers, hb]
    simp only [ShownFor, List.mem_cons, exists_eq_or_imp, and_assoc]

theorem revealedHands_ensures (setup : Setup) (rule : RevealRule) (hideSame : Bool)
    (recipient card : String) (hands : List Hand) :
    Ensures setup (revealedHands (.of setup) rule hideSame recipient card hands) fun final found =>
      ∀ e, e ∈ found ↔
        ∃ other ∈ hands, other.1 ≠ recipient ∧ ShownFor setup rule hideSame card other final e := by
  induction hands with
  | nil =>
    apply Ensures.pure
    intro final e
    simp
  | cons hand hands ih =>
    obtain ⟨other, cards⟩ := hand
    have first : Ensures setup
        (if other = recipient then pure []
          else revealedCards (.of setup) rule hideSame card other cards) fun final found =>
        ∀ e, e ∈ found ↔
          other ≠ recipient ∧ ShownFor setup rule hideSame card (other, cards) final e := by
      by_cases hown : other = recipient
      · rw [if_pos hown]
        apply Ensures.pure
        simp [hown]
      · rw [if_neg hown]
        apply (revealedCards_ensures setup rule hideSame card other cards).mono
        intro final found hfound e
        simp [hfound, hown]
    apply first.bind_ite
    intro entries
    apply Ensures.bind ih
    intro others
    apply Ensures.pure
    intro final hothers hentries e
    simp only [List.mem_append, hentries, hothers, List.mem_cons, exists_eq_or_imp]

theorem revealedTo_ensures (setup : Setup) (rule : RevealRule) (hideSame : Bool)
    (hands : List Hand) (recipient : String) (own : List String) :
    Ensures setup (revealedTo (.of setup) rule hideSame hands recipient own) fun final found =>
      ∀ e, e ∈ found ↔ Entitled setup rule hideSame hands (recipient, own) final e := by
  induction own with
  | nil =>
    apply Ensures.pure
    intro final e
    simp [Entitled]
  | cons card own ih =>
    apply Ensures.bind (accepts_ensures setup rule.audience card)
    intro b
    have first : Ensures setup
        (if b then revealedHands (.of setup) rule hideSame recipient card hands else pure [])
        fun final found => ∀ e, e ∈ found ↔ b = true ∧ ∃ other ∈ hands, other.1 ≠ recipient ∧
          ShownFor setup rule hideSame card other final e := by
      cases b with
      | true =>
        apply (revealedHands_ensures setup rule hideSame recipient card hands).mono
        intro final found hfound e
        simp [hfound]
      | false =>
        apply Ensures.pure
        simp
    apply first.bind_ite
    intro entries
    apply Ensures.bind ih
    intro others
    apply Ensures.pure
    intro final hothers hentries hb e
    simp only [List.mem_append, hentries, hothers, ← hb, Entitled, List.mem_cons, exists_eq_or_imp]

/-! ## What the members are told -/

/-- A message tells the holder of a hand a selection of what the hand entitles to. -/
def TellsEntitled (setup : Setup) (rule : RevealRule) (hideSame : Bool) (limit : Option Nat)
    (hands : List Hand) (run : Run) (hand : Hand) (message : String × List Field) : Prop :=
  message.1 = hand.1 ∧ ∃ entries,
    Selection (Entitled setup rule hideSame hands hand run) limit entries ∧
      message.2 = entries.map Entry.field

theorem revealMessages_ensures (setup : Setup) (rule : RevealRule) (hideSame : Bool)
    (limit : Option Nat) (hands rest : List Hand) :
    Ensures setup (revealMessages (.of setup) rule hideSame limit hands rest)
      fun final messages =>
        List.Forall₂ (TellsEntitled setup rule hideSame limit hands final) rest messages := by
  induction rest with
  | nil => exact Ensures.pure fun final => List.Forall₂.nil
  | cons hand rest ih =>
    obtain ⟨recipient, own⟩ := hand
    apply Ensures.bind (revealedTo_ensures setup rule hideSame hands recipient own)
    intro found
    apply Ensures.bind (fit_distinct_ensures limit)
    intro entries
    apply Ensures.bind ih
    intro others
    apply Ensures.pure
    intro final hothers hentries hfound
    exact List.Forall₂.cons ⟨rfl, entries, hentries _ hfound, rfl⟩ hothers

/-- A reveal is worked out from a flag that says which hands it is of, a flag that says whether a
member with the same card is told of it, and a limit. All three stand when it is done. -/
theorem RevealRule.turn_ensures (setup : Setup) (rule : RevealRule) (held : Holdings) :
    Ensures setup (rule.turn (.of setup) held) fun final turn =>
      ∃ cumulative hideSame limit messages,
        flagOr (.of setup) false rule.cumulative final = .ok cumulative final ∧
        flagOr (.of setup) false rule.hideSame final = .ok hideSame final ∧
        limitOf (.of setup) rule.limit final = .ok limit final ∧
        List.Forall₂ (TellsEntitled setup rule hideSame limit (held.hands cumulative) final)
          (held.hands cumulative) messages ∧
        turn = .shown messages := by
  apply Ensures.bind (Ensures.of_stands (flagOr_stands setup false rule.cumulative))
  intro cumulative
  apply Ensures.bind (Ensures.of_stands (flagOr_stands setup false rule.hideSame))
  intro hideSame
  apply Ensures.bind (Ensures.of_stands (limitOf_stands setup rule.limit))
  intro limit
  apply Ensures.bind (revealMessages_ensures setup rule hideSame limit _ _)
  intro messages
  apply Ensures.pure
  intro final hmessages hlimit hhide hcumulative
  exact ⟨cumulative, hideSame, limit, messages, hcumulative, hhide, hlimit, hmessages, rfl⟩

section

variable {rule : RevealRule} {hideSame : Bool} {limit : Option Nat} {hands rest : List Hand}
  {messages : List (String × List Field)}

theorem names_of_messages
    (h : List.Forall₂ (TellsEntitled setup rule hideSame limit hands run) rest messages) :
    messages.map Prod.fst = rest.map Prod.fst := by
  induction h with
  | nil => rfl
  | cons hfirst _ ih => rw [List.map_cons, List.map_cons, hfirst.1, ih]

theorem exists_message
    (h : List.Forall₂ (TellsEntitled setup rule hideSame limit hands run) rest messages)
    {hand : Hand} (hhand : hand ∈ rest) :
    ∃ message ∈ messages, TellsEntitled setup rule hideSame limit hands run hand message := by
  induction h with
  | nil => cases hhand
  | cons hfirst _ ih =>
    rcases List.mem_cons.mp hhand with rfl | hhand
    · exact ⟨_, List.mem_cons_self .., hfirst⟩
    · obtain ⟨message, hmem, htells⟩ := ih hhand
      exact ⟨message, List.mem_cons_of_mem _ hmem, htells⟩

end

/-! ## Hands that were dealt -/

/-- The cards of the members are what some deals gave, and nothing else. -/
def Holdings.Recorded (held : Holdings) : Prop :=
  ∃ deals : List Dealt, held = deals.foldl Holdings.record {}

/-- Nobody has two hands. -/
theorem Holdings.Recorded.names_nodup {held : Holdings} (h : held.Recorded) (cumulative : Bool) :
    (held.hands cumulative).names.Nodup := by
  obtain ⟨deals, rfl⟩ := h
  have mirrors := Holdings.Mirrors.start.foldl_record deals
  cases cumulative with
  | true => exact mirrors.total.rising.nodup
  | false => exact mirrors.recent.rising.nodup

theorem Holdings.Recorded.hold {held : Holdings} (h : held.Recorded) (turn : Turn) :
    (turn.hold held).Recorded := by
  obtain ⟨deals, rfl⟩ := h
  cases turn with
  | dealt d sizes => exact ⟨deals ++ [d], by rw [List.foldl_concat]; rfl⟩
  | shown messages => exact ⟨deals, rfl⟩
  | told fields => exact ⟨deals, rfl⟩

theorem Holdings.Recorded.foldl_after {game : Game} (h : game.held.Recorded)
    (moderator : Option String) (ts : List Turn) :
    (ts.foldl (Game.after moderator) game).held.Recorded := by
  induction ts generalizing game with
  | nil => exact h
  | cons turn ts ih =>
    apply ih
    exact h.hold turn

/-- However a game is played, the cards are what its deals gave. -/
theorem recorded_of_playFrom {names : Names} {seats : Seats} {game : Game} {rules : List Rule}
    (h : playFrom names seats {} rules run = .ok game final) : game.held.Recorded := by
  obtain ⟨ts, _, rfl⟩ := exists_turns h
  have start : ({} : Game).held.Recorded := ⟨[], rfl⟩
  exact start.foldl_after seats.moderator ts

/-! ## What a reveal does -/

/-- What is told of a reveal of some hands, by the answers that stand when it is done. -/
structure Revealed (setup : Setup) (rule : RevealRule) (hands : ByName (List String)) (run : Run)
    (before after : Transcript) : Prop where
  /-- Who has a hand is told a selection of what it entitles to, and nothing of the own cards. -/
  holders : ∃ hideSame limit,
    flagOr (.of setup) false rule.hideSame run = .ok hideSame run ∧
    limitOf (.of setup) rule.limit run = .ok limit run ∧
    ∀ hand ∈ hands, ∃ entries,
      Selection (Entitled setup rule hideSame hands hand run) limit entries ∧
      (∀ e ∈ entries, e.1 ≠ hand.1) ∧
      after.privately hand.1 = before.privately hand.1 ++ entries.map Entry.field
  /-- Who has none is told nothing. -/
  others : ∀ person ∉ hands.names, after.privately person = before.privately person
  channel : after.channel = before.channel

theorem revealed_of_messages {rule : RevealRule} {hideSame : Bool} {limit : Option Nat}
    {hands : ByName (List String)} {messages : List (String × List Field)} (before : Transcript)
    (once : hands.names.Nodup)
    (hhide : flagOr (.of setup) false rule.hideSame run = .ok hideSame run)
    (hlimit : limitOf (.of setup) rule.limit run = .ok limit run)
    (h : List.Forall₂ (TellsEntitled setup rule hideSame limit hands run) hands messages) :
    Revealed setup rule hands run before (messages.foldl (fun t m => t.send m.1 m.2) before) := by
  have names : messages.map Prod.fst = hands.names := names_of_messages h
  constructor
  case holders =>
    refine ⟨hideSame, limit, hhide, hlimit, fun hand hhand => ?_⟩
    obtain ⟨message, hmem, hname, entries, selection, hfields⟩ := exists_message h hhand
    refine ⟨entries, selection, fun e he => ?_, ?_⟩
    · obtain ⟨card, _, _, other, _, hother, _, _, _, _, rfl⟩ := selection.of_kind e he
      exact hother
    · have own := ByName.flatMap_named_of_mem (fun fields => fields) (names ▸ once) hmem
      rw [Transcript.foldl_send_privately, ← hname, own, hfields]
  case others =>
    intro person hperson
    have none := ByName.flatMap_named_eq_nil (fun fields => fields) (names ▸ hperson)
    rw [Transcript.foldl_send_privately, none, List.append_nil]
  case channel => rw [Transcript.foldl_send_channel]

/-- A reveal tells each holder what the hand entitles to. In any course of a game, who has a hand is
told a card of another member, or the label in its place, for a card that the rule is for: every
such entry once, or as many as the limit allows. Nobody else is told anything, everybody is told
nothing aloud, and the cards stay where they are. -/
theorem a_reveal_tells_each_holder_what_the_hand_entitles_to (setup : Setup) (rule : RevealRule)
    {game game' : Game} (hgame : game.held.Recorded) {run final : Run}
    (h : rule.run (.of setup) game run = .ok game' final) :
    ∃ cumulative, flagOr (.of setup) false rule.cumulative final = .ok cumulative final ∧
      Revealed setup rule (game.held.hands cumulative) final game.told game'.told ∧
      game'.held = game.held := by
  obtain ⟨turn, hturn, rfl⟩ := (Rule.reveal rule).exists_turn (.of setup) ⟨[], none⟩ h
  obtain ⟨cumulative, hideSame, limit, messages, hcumulative, hhide, hlimit, hmessages, rfl⟩ :=
    (rule.turn_ensures setup game.held).at_end hturn
  have once := hgame.names_nodup cumulative
  exact ⟨cumulative, hcumulative, revealed_of_messages _ once hhide hlimit hmessages, rfl⟩

/-- A deal that gives two members an ace, and one of them a key. -/
def acesAndKey : Dealt := ⟨[("p", ["ace", "key"]), ("q", ["ace"])], []⟩

/-- A game in which this was dealt. -/
def afterAcesAndKey : Game := { held := Holdings.record {} acesAndKey }

/-- Every card is shown to who has another one. -/
def showOtherCards : RevealRule :=
  { cards := .everything, audience := .everything, hideSame := some (.const true) }

/-- For the key one member is shown the ace of the other, which the own ace hides, and the other is
shown the key. -/
def otherCardsShown : Transcript :=
  ⟨[], [("p", [⟨"q", "ace", false⟩]), ("q", [⟨"p", "key", false⟩])]⟩

theorem revealAll_otherCards :
    revealAll (.of .empty) showOtherCards true none acesAndKey.hands acesAndKey.hands {}
      (.start twoWords) = .ok otherCardsShown (.start twoWords) := by
  have first : revealedTo (.of .empty) showOtherCards true acesAndKey.hands "p" ["ace", "key"]
      (.start twoWords) = .ok [("q", "ace")] (.start twoWords) := by
    decide +kernel
  have second : revealedTo (.of .empty) showOtherCards true acesAndKey.hands "q" ["ace"]
      (.start twoWords) = .ok [("p", "key")] (.start twoWords) := by
    decide +kernel
  change revealAll _ _ _ _ _ [("p", ["ace", "key"]), ("q", ["ace"])] _ _ = _
  rw [revealAll, Eval.bind_ok first, Eval.bind_ok (fit_one _ _), revealAll, Eval.bind_ok second,
    Eval.bind_ok (fit_one _ _)]
  decide +kernel

theorem run_showOtherCards :
    showOtherCards.run (.of .empty) afterAcesAndKey (.start twoWords) =
      .ok { afterAcesAndKey with told := otherCardsShown } (.start twoWords) := by
  have cumulative : flagOr (.of .empty) false showOtherCards.cumulative (.start twoWords) =
      .ok false (.start twoWords) := rfl
  have hideSame : flagOr (.of .empty) false showOtherCards.hideSame (.start twoWords) =
      .ok true (.start twoWords) := by
    decide +kernel
  have limit : limitOf (.of .empty) showOtherCards.limit (.start twoWords) =
      .ok none (.start twoWords) := rfl
  have hands : afterAcesAndKey.held.hands false = acesAndKey.hands := by
    decide +kernel
  rw [RevealRule.run, Eval.bind_ok cumulative, Eval.bind_ok hideSame, Eval.bind_ok limit]
  dsimp only
  rw [hands]
  exact Eval.bind_ok revealAll_otherCards

theorem an_ace_is_not_shown_for_an_ace :
    afterAcesAndKey.held.Recorded ∧
    showOtherCards.run (.of .empty) afterAcesAndKey (.start twoWords) =
      .ok { afterAcesAndKey with told := otherCardsShown } (.start twoWords) ∧
    ∃ cumulative, flagOr (.of .empty) false none (.start twoWords) =
        .ok cumulative (.start twoWords) ∧
      Revealed .empty showOtherCards (afterAcesAndKey.held.hands cumulative) (.start twoWords) {}
        otherCardsShown := by
  have recorded : afterAcesAndKey.held.Recorded := ⟨[acesAndKey], rfl⟩
  obtain ⟨cumulative, hcumulative, revealed, _⟩ :=
    a_reveal_tells_each_holder_what_the_hand_entitles_to .empty showOtherCards recorded
      run_showOtherCards
  exact ⟨recorded, run_showOtherCards, cumulative, hcumulative, revealed⟩

end Dealer
