-- Moderators. With a moderator and without the turns of a game are the same, so a
-- moderator changes nothing but who is told of the cards that nobody got.
import Dealer.Proofs.Dealing

namespace Dealer

/-- What the same turns tell with a moderator and without. -/
structure Undisturbed (ts : List Turn) (moderator : String) (moderated unmoderated : Transcript) :
    Prop where
  /-- Everybody else is told the same in private. -/
  others : ∀ person, person ≠ moderator →
    moderated.direct.get? person = unmoderated.direct.get? person
  aloud : moderated.channel = ts.flatMap Turn.aloud
  /-- Without a moderator everybody is told how many cards nobody got, deal by deal. -/
  counts : unmoderated.channel = ts.flatMap fun turn => turn.aloud ++ turn.undealtCount
  /-- A moderator is told what was dealt and nothing else. -/
  rollUps : moderated.privately moderator = ts.flatMap Turn.rollUp
  nobody : unmoderated.direct.get? moderator = none

theorem undisturbed_of_among {members : List String} {moderator : String}
    (hmoderator : moderator ∉ members) {ts : List Turn} (h : ∀ turn ∈ ts, turn.Among members) :
    Undisturbed ts moderator (ts.foldl (Game.after (some moderator)) {}).told
      (ts.foldl (Game.after none) {}).told := by
  have tended (seat : Option String) : (ts.foldl (Game.after seat) {}).told.Tended :=
    Game.told_foldl_after_tended seat Transcript.Tended.empty ts
  have silent : ∀ turn ∈ ts, turn.whispers moderator = [] := fun turn ht =>
    (h turn ht).whispers_eq_nil hmoderator
  constructor
  case others =>
    intro person hperson
    have same : Turn.received (some moderator) person = Turn.received none person := by
      funext turn
      simp [Turn.received, Ne.symm hperson]
    rw [(tended _).get?_direct, (tended _).get?_direct, Game.privately_from_start,
      Game.privately_from_start, same]
  case aloud => rw [Game.channel_from_start, Turn.heard_some]
  case counts => rw [Game.channel_from_start, Turn.heard_none]
  case rollUps =>
    have rolled : ts.map (Turn.received (some moderator) moderator) = ts.map Turn.rollUp := by
      apply List.map_congr_left
      intro turn ht
      simp [Turn.received, silent turn ht]
    rw [Game.privately_from_start, List.flatMap_def, rolled]
    rfl
  case nobody =>
    rw [(tended _).get?_direct, Game.privately_from_start]
    simpa [Turn.received] using silent

/-- A moderator does not disturb the game. With a moderator and without, a script fails in the same
way, or it draws the same, tells everybody the same in private, and tells everybody the same aloud
but for the counts of the cards that nobody got. -/
theorem a_moderator_does_not_disturb_the_game (setup : Setup) (rules : List Rule)
    (members : List String) {moderator : String} (hmoderator : moderator ∉ members) (run : Run) :
    match play setup ⟨members, some moderator⟩ rules run, play setup ⟨members, none⟩ rules run with
    | .ok moderated left, .ok unmoderated left' =>
      left = left' ∧ ∃ ts, turns (.of setup) members {} rules run = .ok ts left ∧
        Undisturbed ts moderator moderated unmoderated
    | .error e left, .error e' left' => e = e' ∧ left = left'
    | _, _ => False := by
  simp only [play_eq, map_eq_pure_bind]
  cases h : turns (.of setup) members {} rules run with
  | ok ts left =>
    rw [Eval.bind_ok h, Eval.bind_ok h]
    have among := turns_among (Seated.start members) h
    exact ⟨rfl, ts, rfl, undisturbed_of_among hmoderator among⟩
  | error e left =>
    rw [Eval.bind_error h, Eval.bind_error h]
    exact ⟨rfl, rfl⟩

/-- The card that is left over is shown to the moderator, or counted aloud. -/
theorem the_card_left_over_is_shown_or_counted :
    "m" ∉ ["p"] ∧
    play .empty ⟨["p"], some "m"⟩ [.deal oneCardEach] (.start twoWords) =
      .ok ⟨[⟨"1 item", "p", false⟩],
          [("m", [⟨"p", "a", false⟩, ⟨"Undealt", "b", false⟩]),
            ("p", [⟨"You were dealt", "a", false⟩])]⟩
        (.start { twoWords with pending := [5] }) ∧
    play .empty ⟨["p"], none⟩ [.deal oneCardEach] (.start twoWords) =
      .ok ⟨[⟨"1 item", "p", false⟩, ⟨"Undealt", "1 item", false⟩],
          [("p", [⟨"You were dealt", "a", false⟩])]⟩
        (.start { twoWords with pending := [5] }) ∧
    ∃ ts, Undisturbed ts "m"
      ⟨[⟨"1 item", "p", false⟩],
        [("m", [⟨"p", "a", false⟩, ⟨"Undealt", "b", false⟩]),
          ("p", [⟨"You were dealt", "a", false⟩])]⟩
      ⟨[⟨"1 item", "p", false⟩, ⟨"Undealt", "1 item", false⟩],
        [("p", [⟨"You were dealt", "a", false⟩])]⟩ := by
  have absent : "m" ∉ ["p"] := by decide
  have unmoderated : play .empty ⟨["p"], none⟩ [.deal oneCardEach] (.start twoWords) =
      .ok ⟨[⟨"1 item", "p", false⟩, ⟨"Undealt", "1 item", false⟩],
          [("p", [⟨"You were dealt", "a", false⟩])]⟩
        (.start { twoWords with pending := [5] }) := by
    rw [play_eq, map_eq_pure_bind, Eval.bind_ok turns_oneCardEach]
    decide +kernel
  have both := a_moderator_does_not_disturb_the_game .empty [.deal oneCardEach] ["p"] absent
    (.start twoWords)
  rw [play_oneCardEach, unmoderated] at both
  obtain ⟨_, ts, _, h⟩ := both
  exact ⟨absent, play_oneCardEach, unmoderated, ts, h⟩

end Dealer
