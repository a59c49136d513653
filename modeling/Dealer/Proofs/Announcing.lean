-- Announcements. A rule tells everybody, target by target, who holds a card that the
-- target accepts. The limit is for each target alone, so a card that two targets
-- accept may be told twice. What is told for the targets comes in one random order.
import Dealer.Proofs.Ensuring
import Dealer.Proofs.Telling
import Mathlib.Data.List.Forall2

namespace Dealer

variable {setup : Setup} {run : Run}

/-! ## A matcher and its targets -/

/-- The answers that stand say whether a matcher accepts a card. -/
def Decided (setup : Setup) (m : Matcher) (card : String) (run : Run) : Prop :=
  ∃ b, m.accepts (deckOf setup []) card run = .ok b run

theorem someAccepts_iff {card : String} {parts : List Matcher}
    (h : ∀ m ∈ parts, Decided setup m card run) :
    Matcher.someAccepts (deckOf setup []) card parts run = .ok true run ↔
      ∃ m ∈ parts, Accepts setup m card run := by
  induction parts with
  | nil =>
    rw [Matcher.someAccepts]
    simp [pure, EStateM.pure]
  | cons m ms ih =>
    -- Each part has a verdict, and those behind the one that decides have one as well.
    obtain ⟨b, hb⟩ := h m (List.mem_cons_self ..)
    have rest := ih fun m' hm' => h m' (List.mem_cons_of_mem _ hm')
    rw [Matcher.someAccepts, Eval.bind_ok hb]
    simp only [List.mem_cons, exists_eq_or_imp, accepts_iff_of_verdict hb]
    cases b with
    | true => simp [pure, EStateM.pure]
    | false => simpa using rest

/-- A matcher accepts a card when one of its targets does. -/
theorem accepts_iff_exists_target {m : Matcher} {card : String}
    (h : ∀ target ∈ m.targets, Decided setup target card run) :
    Accepts setup m card run ↔ ∃ target ∈ m.targets, Accepts setup target card run := by
  cases m with
  | any parts =>
    unfold Accepts
    rw [Matcher.accepts]
    exact someAccepts_iff h
  | _ => simp [Matcher.targets]

/-! ## What is found -/

/-- The cards in some hands, each with its holder. -/
def heldCards (hands : List Hand) : List (String × String) :=
  hands.flatMap fun hand => hand.2.map fun card => (hand.1, card)

/-- An entry tells of a card that a matcher accepts. It names the holder, and the card or the label
in its place. -/
def TellsOf (setup : Setup) (label : Option String) (cards : List (String × String)) (m : Matcher)
    (run : Run) (e : Entry) : Prop :=
  ∃ card ∈ cards, Accepts setup m card.2 run ∧ e = (card.1, label.getD card.2)

theorem matching_ensures (setup : Setup) (label : Option String) (m : Matcher)
    (cards : List (String × String)) :
    Ensures setup (matching (.of setup) label m cards) fun final found =>
      (∀ card ∈ cards, Decided setup m card.2 final) ∧
        ∀ e, e ∈ found ↔ TellsOf setup label cards m final e := by
  induction cards with
  | nil =>
    apply Ensures.pure
    intro final
    simp [TellsOf]
  | cons first cards ih =>
    obtain ⟨member, card⟩ := first
    apply Ensures.bind (Ensures.of_stands (accepts_stands setup m card))
    intro b
    apply Ensures.bind ih
    intro others
    apply Ensures.pure
    rintro final ⟨hdecided, hothers⟩ hfirst
    refine ⟨fun c hc => ?_, fun e => ?_⟩
    · rcases List.mem_cons.mp hc with rfl | hc
      · exact ⟨b, hfirst⟩
      · exact hdecided c hc
    · rw [mem_cons_if, hothers, ← accepts_iff_of_verdict hfirst]
      simp only [TellsOf, List.mem_cons, exists_eq_or_imp]

/-- A selection for each of some targets. -/
abbrev Selections (setup : Setup) (label : Option String) (cards : List (String × String))
    (limit : Option Nat) (run : Run) : List Matcher → List (List Entry) → Prop :=
  List.Forall₂ fun target => Selection (TellsOf setup label cards target run) limit

theorem announced_ensures (setup : Setup) (label : Option String) (limit : Option Nat)
    (cards : List (String × String)) (targets : List Matcher) :
    Ensures setup (announced (.of setup) label limit cards targets) fun final entries =>
      (∀ target ∈ targets, ∀ card ∈ cards, Decided setup target card.2 final) ∧
        ∃ groups, Selections setup label cards limit final targets groups ∧
          entries = groups.flatten := by
  induction targets with
  | nil => exact Ensures.pure fun final => ⟨by simp, [], List.Forall₂.nil, rfl⟩
  | cons target targets ih =>
    apply Ensures.bind (matching_ensures setup label target cards)
    intro found
    apply Ensures.bind (fit_distinct_ensures limit)
    intro entries
    apply Ensures.bind ih
    intro others
    apply Ensures.pure
    rintro final ⟨hdecided, groups, hgroups, rfl⟩ hentries ⟨hfirst, hfound⟩
    refine ⟨?_, entries :: groups, List.Forall₂.cons (hentries _ hfound) hgroups, rfl⟩
    intro m hm
    rcases List.mem_cons.mp hm with rfl | hm
    · exact hfirst
    · exact hdecided m hm

/-- Without a limit an entry is selected when it tells of a card that some target accepts. -/
theorem mem_flatten_selections {label : Option String} {cards : List (String × String)}
    {targets : List Matcher} {groups : List (List Entry)}
    (h : Selections setup label cards none run targets groups) (e : Entry) :
    e ∈ groups.flatten ↔ ∃ target ∈ targets, TellsOf setup label cards target run e := by
  induction h with
  | nil => simp
  | cons hfirst _ ih =>
    rw [List.flatten_cons, List.mem_append, ih, hfirst.mem_iff]
    simp only [List.mem_cons, exists_eq_or_imp]

/-- An entry tells of a card that a matcher accepts when it tells of one that a target accepts. -/
theorem tellsOf_iff_exists_target {label : Option String} {cards : List (String × String)}
    {m : Matcher} (h : ∀ target ∈ m.targets, ∀ card ∈ cards, Decided setup target card.2 run)
    (e : Entry) :
    TellsOf setup label cards m run e ↔
      ∃ target ∈ m.targets, TellsOf setup label cards target run e := by
  have accepts (card : String × String) (hcard : card ∈ cards) :=
    accepts_iff_exists_target fun target htarget => h target htarget card hcard
  constructor
  · rintro ⟨card, hcard, haccepts, rfl⟩
    obtain ⟨target, htarget, haccepts⟩ := (accepts card hcard).mp haccepts
    exact ⟨target, htarget, card, hcard, haccepts, rfl⟩
  · rintro ⟨target, htarget, card, hcard, haccepts, rfl⟩
    exact ⟨card, hcard, (accepts card hcard).mpr ⟨target, htarget, haccepts⟩, rfl⟩

/-! ## What an announcement does -/

/-- What is told of an announcement of some hands, by the answers that stand when it is done. -/
structure Announced (setup : Setup) (rule : AnnounceRule) (hands : List Hand) (run : Run)
    (before after : Transcript) : Prop where
  /-- Everybody is told a selection for each target, all in one order. Without a limit these are the
  entries that tell of a card which the matcher accepts. -/
  channel : ∃ (limit : Option Nat) (groups : List (List Entry)) (entries : List Entry),
    limitOf (.of setup) rule.limit run = .ok limit run ∧
    Selections setup rule.label (heldCards hands) limit run rule.announce.targets groups ∧
    entries.Perm groups.flatten ∧
    after.channel = before.channel ++ entries.map Entry.field ∧
    (limit = none →
      ∀ e, e ∈ entries ↔ TellsOf setup rule.label (heldCards hands) rule.announce run e)
  /-- Nobody is told anything in private. -/
  direct : after.direct = before.direct

theorem AnnounceRule.turn_ensures (setup : Setup) (rule : AnnounceRule) (held : Holdings)
    (before : Transcript) :
    Ensures setup (rule.turn (.of setup) held) fun final turn =>
      ∃ cumulative fields, flagOr (.of setup) false rule.cumulative final = .ok cumulative final ∧
        turn = .told fields ∧
        Announced setup rule (held.hands cumulative) final before (before.tell fields) := by
  apply Ensures.bind (Ensures.of_stands (flagOr_stands setup false rule.cumulative))
  intro cumulative
  apply Ensures.bind (Ensures.of_stands (limitOf_stands setup rule.limit))
  intro limit
  apply Ensures.bind
    (announced_ensures setup rule.label limit (heldCards (held.hands cumulative)) _)
  intro found
  apply Ensures.bind (shuffled_ensures found)
  intro entries
  apply Ensures.pure
  rintro final hperm ⟨hdecided, groups, hgroups, rfl⟩ hlimit hcumulative
  refine ⟨cumulative, _, hcumulative, rfl, ?_, rfl⟩
  refine ⟨limit, groups, entries, hlimit, hgroups, hperm, rfl, ?_⟩
  rintro rfl e
  rw [hperm.mem_iff, mem_flatten_selections hgroups, tellsOf_iff_exists_target hdecided]

/-- An announcement tells who holds what, target by target. For each target everybody is told of
every card that it accepts, each entry once, or of as many as the limit allows. Nobody is told
anything in private, and the cards stay where they are. -/
theorem an_announcement_tells_who_holds_what_target_by_target (setup : Setup) (rule : AnnounceRule)
    {game game' : Game} {run final : Run} (h : rule.run (.of setup) game run = .ok game' final) :
    ∃ cumulative, flagOr (.of setup) false rule.cumulative final = .ok cumulative final ∧
      Announced setup rule (game.held.hands cumulative) final game.told game'.told ∧
      game'.held = game.held := by
  obtain ⟨turn, hturn, rfl⟩ := (Rule.announce rule).exists_turn (.of setup) ⟨[], none⟩ h
  obtain ⟨cumulative, fields, hcumulative, rfl, announced⟩ :=
    (rule.turn_ensures setup game.held game.told).at_end hturn
  exact ⟨cumulative, hcumulative, announced, rfl⟩

/-- A game in which one member was dealt one card, a key. -/
def afterOneKey : Game := { held := Holdings.record {} ⟨[("p", ["key"])], []⟩ }

/-- All cards are announced, and then those that start with a letter. -/
def announceTwice : AnnounceRule := { announce := .any [.everything, .test .startsWith "k"] }

/-- Both targets accept the key. -/
def keyTwice : Transcript := { channel := [⟨"p", "key", false⟩, ⟨"p", "key", false⟩] }

theorem announced_twice :
    announced (.of .empty) announceTwice.label none [("p", "key")] announceTwice.announce.targets
      (.start twoWords) = .ok [("p", "key"), ("p", "key")] (.start twoWords) := by
  have first : matching (.of .empty) announceTwice.label .everything [("p", "key")]
      (.start twoWords) = .ok [("p", "key")] (.start twoWords) := by
    decide +kernel
  have second : matching (.of .empty) announceTwice.label (.test .startsWith "k") [("p", "key")]
      (.start twoWords) = .ok [("p", "key")] (.start twoWords) := by
    decide +kernel
  have rest : announced (.of .empty) announceTwice.label none [("p", "key")]
      [.test .startsWith "k"] (.start twoWords) = .ok [("p", "key")] (.start twoWords) := by
    rw [announced, Eval.bind_ok second, Eval.bind_ok (fit_one _ _)]
    rfl
  change announced _ _ _ _ [.everything, .test .startsWith "k"] _ = _
  rw [announced, Eval.bind_ok first, Eval.bind_ok (fit_one _ _), Eval.bind_ok rest]
  rfl

/-- One word is drawn for the order of the two entries. -/
theorem run_announceTwice :
    announceTwice.run (.of .empty) afterOneKey (.start twoWords) =
      .ok { afterOneKey with told := keyTwice } (.start { twoWords with pending := [5] }) := by
  have cumulative : flagOr (.of .empty) false announceTwice.cumulative (.start twoWords) =
      .ok false (.start twoWords) := rfl
  have limit : limitOf (.of .empty) announceTwice.limit (.start twoWords) =
      .ok none (.start twoWords) := rfl
  have cards : heldCards (afterOneKey.held.hands false) = [("p", "key")] := by
    decide +kernel
  have order : shuffled [(("p", "key") : Entry), ("p", "key")] (.start twoWords) =
      .ok [("p", "key"), ("p", "key")] (.start { twoWords with pending := [5] }) := by
    decide +kernel
  rw [AnnounceRule.run, Eval.bind_ok cumulative, Eval.bind_ok limit]
  change (announced _ _ _ (heldCards (afterOneKey.held.hands false)) _ >>= _) _ = _
  rw [cards, Eval.bind_ok announced_twice]
  exact Eval.bind_ok order

theorem a_card_that_two_targets_accept_is_announced_twice :
    announceTwice.run (.of .empty) afterOneKey (.start twoWords) =
      .ok { afterOneKey with told := keyTwice } (.start { twoWords with pending := [5] }) ∧
    ∃ cumulative, flagOr (.of .empty) false none (.start { twoWords with pending := [5] }) =
        .ok cumulative (.start { twoWords with pending := [5] }) ∧
      Announced .empty announceTwice (afterOneKey.held.hands cumulative)
        (.start { twoWords with pending := [5] }) {} keyTwice := by
  obtain ⟨cumulative, hcumulative, announced, _⟩ :=
    an_announcement_tells_who_holds_what_target_by_target .empty announceTwice run_announceTwice
  exact ⟨run_announceTwice, cumulative, hcumulative, announced⟩

end Dealer
