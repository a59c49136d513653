-- What is told stays told, and it is given out. A game adds to its transcript and
-- takes nothing back, only those at the table are told something in private, and
-- nobody is listed without fields. So an output is refused as empty exactly where
-- nobody was told anything, and no output is without embeds.
import Dealer.Proofs.Dealing
import Dealer.Proofs.Paging
import Dealer.Session

namespace Dealer

/-! ## Transcripts that go on -/

namespace Transcript

/-- A transcript goes on from an earlier one: what was told before stands in front, for everybody
and for each person. -/
structure Continues (later earlier : Transcript) : Prop where
  channel : earlier.channel <+: later.channel
  privately : ∀ person, earlier.privately person <+: later.privately person

theorem Continues.refl (t : Transcript) : t.Continues t :=
  ⟨List.prefix_refl _, fun _ => List.prefix_refl _⟩

theorem Continues.trans {t t' t'' : Transcript} (h : t''.Continues t') (h' : t'.Continues t) :
    t''.Continues t :=
  ⟨h'.channel.trans h.channel, fun person => (h'.privately person).trans (h.privately person)⟩

end Transcript

theorem Turn.tell_continues (moderator : Option String) (t : Transcript) (turn : Turn) :
    (turn.tell moderator t).Continues t := by
  constructor
  · rw [Turn.tell_channel]
    exact List.prefix_append _ _
  · intro person
    rw [Turn.tell_privately]
    exact List.prefix_append _ _

theorem Game.foldl_after_continues (moderator : Option String) (game : Game) (ts : List Turn) :
    (ts.foldl (Game.after moderator) game).told.Continues game.told := by
  induction ts generalizing game with
  | nil => exact Transcript.Continues.refl _
  | cons turn ts ih => exact (ih _).trans (turn.tell_continues moderator game.told)

/-- Rules that are run after others go on with the game that those left. -/
theorem playFrom_append (names : Names) (seats : Seats) (game : Game) (first later : List Rule) :
    playFrom names seats game (first ++ later) =
      playFrom names seats game first >>= fun game => playFrom names seats game later := by
  induction first generalizing game with
  | nil => simp [playFrom]
  | cons rule rules ih =>
    simp only [List.cons_append, playFrom, ih, bind_assoc]
    refine bind_congr fun b => ?_
    cases b with
    | true => simp
    | false => simp

theorem playFrom_continues {names : Names} {seats : Seats} {game game' : Game} {rules : List Rule}
    {run final : Run} (h : playFrom names seats game rules run = .ok game' final) :
    game'.told.Continues game.told := by
  obtain ⟨ts, _, rfl⟩ := exists_turns h
  exact Game.foldl_after_continues seats.moderator game ts

/-! ## Those who are told something -/

/-- Who is told something in private is at the table, and is told one field at least. -/
def Transcript.Addressed (t : Transcript) (seats : Seats) : Prop :=
  ∀ e ∈ t.direct, (e.1 ∈ seats.members ∨ seats.moderator = some e.1) ∧ e.2 ≠ []

/-- Who is not at the table is told nothing. -/
theorem Turn.Among.received_eq_nil {members : List String} {moderator : Option String} {turn : Turn}
    (h : turn.Among members) {person : String} (hmember : person ∉ members)
    (hmoderator : moderator ≠ some person) : turn.received moderator person = [] := by
  simp [Turn.received, h.whispers_eq_nil hmember, hmoderator]

theorem addressed_of_play {setup : Setup} {seats : Seats} {rules : List Rule} {run final : Run}
    {told : Transcript} (h : play setup seats rules run = .ok told final) :
    told.Addressed seats := by
  obtain ⟨game, left, hgame, h⟩ := Eval.exists_of_bind_ok h
  cases h
  obtain ⟨ts, hts, rfl⟩ := exists_turns hgame
  have among := turns_among (Seated.start seats.members) hts
  have tended : (ts.foldl (Game.after seats.moderator) {}).told.Tended :=
    Game.told_foldl_after_tended seats.moderator Transcript.Tended.empty ts
  rintro ⟨person, fields⟩ hentry
  have found := tended.rising.get?_of_mem hentry
  have filled : fields ≠ [] := by
    rintro rfl
    exact tended.filled person found
  refine ⟨?_, filled⟩
  by_contra hstranger
  obtain ⟨hmember, hmoderator⟩ := not_or.mp hstranger
  have silent : (ts.foldl (Game.after seats.moderator) {}).told.privately person = [] := by
    rw [Game.privately_from_start, List.flatMap_eq_nil_iff]
    intro turn hturn
    exact (among turn hturn).received_eq_nil hmember hmoderator
  unfold Transcript.privately at silent
  rw [found] at silent
  exact filled silent

/-! ## Outputs -/

theorem Transcript.Addressed.isEmpty_iff {t : Transcript} {seats : Seats} (h : t.Addressed seats) :
    t.isEmpty = true ↔ t.channel = [] ∧ t.direct = [] := by
  unfold Transcript.isEmpty
  cases hdirect : t.direct with
  | nil => simp
  | cons e rest =>
    have : e.2 ≠ [] := (h e (hdirect ▸ List.mem_cons_self ..)).2
    simp [this]

/-- What running a script at a table comes to, once the table is admitted and the rules are
played. -/
structure Script.GivesOut (script : Script) (limits : Limits) (table : Table)
    (generator : Generator) : Prop where
  /-- It is refused as empty exactly where everybody together and each person alone are told
  nothing. -/
  empty : ∀ told left, script.imports = [] → script.transcript table generator = .ok (told, left) →
    (script.run limits table generator = .error (.failed .emptyOutput) ↔
      told.channel = [] ∧ told.direct = [])
  /-- Otherwise something is given out, if the room in one message is a number of 64 bits. -/
  given : ∀ told left, script.imports = [] → script.transcript table generator = .ok (told, left) →
    told.channel ≠ [] ∨ told.direct ≠ [] → limits.room < UInt64.size →
      ∃ output, script.run limits table generator = .ok (output, left)
  /-- If it is not, there is an overflow. -/
  broken : ∀ told left, script.imports = [] → script.transcript table generator = .ok (told, left) →
    told.channel ≠ [] ∨ told.direct ≠ [] → UInt64.size ≤ limits.room →
      script.run limits table generator = .error (.overflow .product)
  /-- There is an embed for somebody. -/
  filled : ∀ output left, script.run limits table generator = .ok (output, left) →
    output.channel ≠ [] ∨ ∃ e ∈ output.direct, e.2 ≠ []
  /-- There is an embed for each person that is listed. -/
  each : ∀ output left, script.run limits table generator = .ok (output, left) →
    ∀ e ∈ output.direct, e.2 ≠ []

namespace Script

variable {script : Script} {limits : Limits} {table : Table} {generator left : Generator}
  {told : Transcript} {seats : Seats}

theorem addressed_of_transcript (h : script.transcript table generator = .ok (told, left)) :
    ∃ seats, told.Addressed seats := by
  unfold transcript at h
  split at h
  · cases h
  · cases h
  · split at h
    · cases h
    · rename_i hplay
      cases h
      exact ⟨_, addressed_of_play hplay⟩

/-- A transcript, laid out as far as there is room for it. -/
def laidOut (script : Script) (limits : Limits) (told : Transcript) : Output where
  channel := limits.layOut (script.title limits) (Limits.shown limits.room told.channel)
  direct := told.direct.map fun e =>
    (e.1, limits.layOut (script.title limits) (Limits.shown limits.room e.2))

theorem output_eq (script : Script) (limits : Limits) (told : Transcript) :
    script.output limits told =
      if limits.room < UInt64.size then .ok (script.laidOut limits told) else .error .product := by
  unfold output
  simp only [Limits.paginate_eq]
  by_cases h : limits.room < UInt64.size
  · simp only [if_pos h, ok_bind]
    exact congrArg (· >>= _) List.mapM_pure
  · simp only [if_neg h, error_bind]

/-- To run a script without fragments is to play it and to lay out what was told. -/
theorem run_of_transcript (himports : script.imports = [])
    (h : script.transcript table generator = .ok (told, left)) :
    script.run limits table generator =
      if told.isEmpty then .error (.failed .emptyOutput)
      else if limits.room < UInt64.size then .ok (script.laidOut limits told, left)
      else .error (.overflow .product) := by
  unfold run
  rw [if_neg (not_not_intro himports), h]
  simp only [Except.mapError, ok_bind, output_eq]
  cases told.isEmpty with
  | true => rfl
  | false =>
    simp only [Bool.false_eq_true, if_false]
    by_cases hroom : limits.room < UInt64.size
    · rw [if_pos hroom, if_pos hroom]
      rfl
    · rw [if_neg hroom, if_neg hroom]
      rfl

theorem exists_of_run_ok {output : Output}
    (h : script.run limits table generator = .ok (output, left)) :
    ∃ told, script.transcript table generator = .ok (told, left) ∧ told.isEmpty = false ∧
      output = script.laidOut limits told := by
  by_cases himports : script.imports = []
  · cases htold : script.transcript table generator with
    | error e =>
      unfold run at h
      rw [if_neg (not_not_intro himports), htold] at h
      cases h
    | ok result =>
      obtain ⟨told, left'⟩ := result
      rw [run_of_transcript himports htold] at h
      split at h
      · cases h
      · rename_i hempty
        split at h
        · cases h
          exact ⟨told, rfl, (Bool.not_eq_true _).mp hempty, rfl⟩
        · cases h
  · unfold run at h
    rw [if_pos himports] at h
    cases h

theorem layOut_shown_eq_nil_iff {title : String} {fields : List Field} :
    limits.layOut title (Limits.shown limits.room fields) = [] ↔ fields = [] :=
  (limits.layOut_eq_nil_iff title _).trans (Limits.shown_eq_nil_iff _ _)

theorem laidOut_each (h : told.Addressed seats) :
    ∀ e ∈ (script.laidOut limits told).direct, e.2 ≠ [] := by
  intro e he
  obtain ⟨⟨person, fields⟩, hentry, rfl⟩ := List.mem_map.mp he
  rw [ne_eq, layOut_shown_eq_nil_iff]
  exact (h _ hentry).2

theorem laidOut_filled (h : told.Addressed seats) (hempty : told.isEmpty = false) :
    (script.laidOut limits told).channel ≠ [] ∨
      ∃ e ∈ (script.laidOut limits told).direct, e.2 ≠ [] := by
  by_cases hchannel : told.channel = []
  · cases hdirect : told.direct with
    | nil => simp [Transcript.isEmpty, hchannel, hdirect] at hempty
    | cons e rest =>
      have listed : (script.laidOut limits told).direct ≠ [] := by simp [laidOut, hdirect]
      obtain ⟨e, he⟩ := List.exists_mem_of_ne_nil _ listed
      exact Or.inr ⟨e, he, laidOut_each h e he⟩
  · refine Or.inl ?_
    rw [laidOut, ne_eq, layOut_shown_eq_nil_iff]
    exact hchannel

theorem givesOut (script : Script) (limits : Limits) (table : Table) (generator : Generator) :
    script.GivesOut limits table generator := by
  have tells {told : Transcript} {seats : Seats} (addressed : told.Addressed seats)
      (h : told.channel ≠ [] ∨ told.direct ≠ []) : ¬told.isEmpty = true := by
    rw [addressed.isEmpty_iff, not_and_or]
    exact h
  constructor
  case empty =>
    intro told left himports h
    obtain ⟨seats, addressed⟩ := addressed_of_transcript h
    rw [run_of_transcript himports h, ← addressed.isEmpty_iff]
    split
    · rename_i hempty
      exact iff_of_true rfl hempty
    · rename_i hempty
      refine iff_of_false (fun heq => ?_) hempty
      split at heq <;> cases heq
  case given =>
    intro told left himports h htells hroom
    obtain ⟨seats, addressed⟩ := addressed_of_transcript h
    rw [run_of_transcript himports h, if_neg (tells addressed htells), if_pos hroom]
    exact ⟨_, rfl⟩
  case broken =>
    intro told left himports h htells hroom
    obtain ⟨seats, addressed⟩ := addressed_of_transcript h
    rw [run_of_transcript himports h, if_neg (tells addressed htells),
      if_neg (Nat.not_lt.mpr hroom)]
  case filled =>
    intro output left h
    obtain ⟨told, htold, hempty, rfl⟩ := exists_of_run_ok h
    obtain ⟨seats, addressed⟩ := addressed_of_transcript htold
    exact laidOut_filled addressed hempty
  case each =>
    intro output left h
    obtain ⟨told, htold, _, rfl⟩ := exists_of_run_ok h
    obtain ⟨seats, addressed⟩ := addressed_of_transcript htold
    exact laidOut_each addressed

end Script

/-- What is told stays told, and it is given out. Rules that are added at the end of a game add to
what the rules before them told, and only those at the table are told something in private. So a
script is refused as empty exactly where it told nothing, and where it told something it gives that
out as long as the room in a message is a number of 64 bits. Whatever it gives out has an embed, and
one for each person that is listed. -/
theorem what_is_told_stays_told_and_is_given_out :
    (∀ (setup : Setup) (seats : Seats) (first later : List Rule) (run final : Run)
        (told : Transcript), play setup seats (first ++ later) run = .ok told final →
      (∃ earlier left, play setup seats first run = .ok earlier left ∧ told.Continues earlier) ∧
        told.Addressed seats) ∧
    ∀ (script : Script) (limits : Limits) (table : Table) (generator : Generator),
      script.GivesOut limits table generator := by
  refine ⟨fun setup seats first later run final told h => ⟨?_, addressed_of_play h⟩,
    Script.givesOut⟩
  unfold play at h
  rw [playFrom_append, bind_assoc] at h
  obtain ⟨game, left, hfirst, h⟩ := Eval.exists_of_bind_ok h
  obtain ⟨game', final', hlater, h⟩ := Eval.exists_of_bind_ok h
  cases h
  refine ⟨game.told, left, ?_, playFrom_continues hlater⟩
  unfold play
  rw [Eval.bind_ok hfirst]
  rfl

/-- A game that deals and then explains. -/
def dealAndExplain : List Rule := [.deal oneCardEach] ++ [.explain ⟨"Note", "Keep it"⟩]

/-- The explanation is added to what the deal told. With no participant and no rule a script is
refused, and with the explanation alone it is not. -/
theorem an_explanation_is_added :
    play .empty ⟨["p"], some "m"⟩ dealAndExplain (.start twoWords) =
      .ok ⟨[⟨"1 item", "p", false⟩, ⟨"Note", "Keep it", false⟩],
          [("m", [⟨"p", "a", false⟩, ⟨"Undealt", "b", false⟩]),
            ("p", [⟨"You were dealt", "a", false⟩])]⟩
        (.start { twoWords with pending := [5] }) ∧
    (∃ earlier left, play .empty ⟨["p"], some "m"⟩ [.deal oneCardEach] (.start twoWords) =
        .ok earlier left ∧
      Transcript.Continues ⟨[⟨"1 item", "p", false⟩, ⟨"Note", "Keep it", false⟩],
          [("m", [⟨"p", "a", false⟩, ⟨"Undealt", "b", false⟩]),
            ("p", [⟨"You were dealt", "a", false⟩])]⟩ earlier) ∧
    Script.run {} {} ⟨[], none⟩ twoWords = .error (.failed .emptyOutput) ∧
    Script.run { rules := [.explain ⟨"Note", "Keep it"⟩] } {} ⟨[], none⟩ twoWords ≠
      .error (.failed .emptyOutput) := by
  obtain ⟨stays, given⟩ := what_is_told_stays_told_and_is_given_out
  have played : play .empty ⟨["p"], some "m"⟩ dealAndExplain (.start twoWords) =
      .ok ⟨[⟨"1 item", "p", false⟩, ⟨"Note", "Keep it", false⟩],
          [("m", [⟨"p", "a", false⟩, ⟨"Undealt", "b", false⟩]),
            ("p", [⟨"You were dealt", "a", false⟩])]⟩
        (.start { twoWords with pending := [5] }) := by
    unfold play dealAndExplain
    rw [playFrom_append, playFrom_eq, map_eq_pure_bind, bind_assoc, bind_assoc,
      Eval.bind_ok turns_oneCardEach]
    decide +kernel
  refine ⟨played, (stays _ _ _ _ _ _ _ played).1, ?_, ?_⟩
  · exact ((given {} {} ⟨[], none⟩ twoWords).empty {} twoWords rfl rfl).mpr ⟨rfl, rfl⟩
  · have told : Script.transcript { rules := [.explain ⟨"Note", "Keep it"⟩] } ⟨[], none⟩ twoWords =
        .ok (⟨[⟨"Note", "Keep it", false⟩], []⟩, twoWords) := rfl
    intro refused
    have := ((given _ {} _ _).empty _ _ rfl told).mp refused
    cases this.1

end Dealer
