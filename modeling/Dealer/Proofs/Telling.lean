-- Who is told what. Everybody is told what a turn says aloud, a member what it
-- whispers to the member, and a moderator the roll-up. Nobody but a member is
-- dealt cards, so nobody but a member is whispered to.
import Dealer.Proofs.Entries
import Dealer.Proofs.Meaning
import Dealer.Proofs.Rounds
import Dealer.Proofs.Turns

namespace Dealer

/-! ## Transcripts -/

namespace Transcript

/-- What one person was told in private. -/
def privately (t : Transcript) (person : String) : List Field := (t.direct.get? person).getD []

@[simp] theorem tell_channel (t : Transcript) (fields : List Field) :
    (t.tell fields).channel = t.channel ++ fields := rfl

@[simp] theorem tell_privately (t : Transcript) (fields : List Field) (person : String) :
    (t.tell fields).privately person = t.privately person := rfl

@[simp] theorem send_channel (t : Transcript) (person : String) (fields : List Field) :
    (t.send person fields).channel = t.channel := by
  unfold send
  split <;> rfl

theorem send_privately (t : Transcript) (person other : String) (fields : List Field) :
    (t.send person fields).privately other =
      t.privately other ++ if person = other then fields else [] := by
  unfold send
  by_cases hf : fields = []
  · simp [hf]
  · by_cases h : person = other
    · simp [hf, h, privately, ByName.append, ByName.get?_put_self]
    · simp [hf, h, privately, ByName.append, ByName.get?_put_of_ne (Ne.symm h)]

/-- The names rise, and nobody has an entry without fields. Two such transcripts are told apart by
what somebody was told. -/
structure Tended (t : Transcript) : Prop where
  rising : ByName.Rising t.direct
  filled : ∀ person, t.direct.get? person ≠ some []

namespace Tended

variable {t : Transcript}

theorem empty : Tended {} := ⟨List.Pairwise.nil, fun _ h => by cases h⟩

theorem tell (h : t.Tended) (fields : List Field) : (t.tell fields).Tended := ⟨h.rising, h.filled⟩

theorem send (h : t.Tended) (person : String) (fields : List Field) :
    (t.send person fields).Tended := by
  unfold Transcript.send
  by_cases hf : fields = []
  · rw [if_pos hf]
    exact h
  · rw [if_neg hf]
    refine ⟨h.rising.put _ _, fun other => ?_⟩
    unfold ByName.append
    rw [ByName.get?_put]
    by_cases hother : other = person
    · simp [hother, hf]
    · simpa [hother] using h.filled other

theorem foldl_send (h : t.Tended) (messages : List (String × List Field)) :
    (messages.foldl (fun t m => t.send m.1 m.2) t).Tended := by
  induction messages generalizing t with
  | nil => exact h
  | cons m messages ih => exact ih (h.send m.1 m.2)

/-- What a person was told says what the entry of the person is. -/
theorem get?_direct (h : t.Tended) (person : String) :
    t.direct.get? person =
      if t.privately person = [] then none else some (t.privately person) := by
  have hfilled := h.filled person
  unfold privately
  cases hentry : t.direct.get? person with
  | none => simp
  | some fields =>
    rw [hentry] at hfilled
    simpa using hfilled

/-- Where everybody was told as much, the entries are of the same persons and of the same sizes. -/
theorem map_length_eq {t' : Transcript} (h : t.Tended) (h' : t'.Tended)
    (lengths : ∀ person, (t.privately person).length = (t'.privately person).length) :
    t.direct.map (fun e => (e.1, e.2.length)) = t'.direct.map fun e => (e.1, e.2.length) := by
  apply (h.rising.map List.length).eq_of_get?_eq (h'.rising.map List.length)
  intro person
  have hnil : t.privately person = [] ↔ t'.privately person = [] := by
    rw [← List.length_eq_zero_iff, ← List.length_eq_zero_iff, lengths]
  rw [ByName.get?_map, ByName.get?_map, h.get?_direct, h'.get?_direct]
  by_cases hnone : t'.privately person = []
  · rw [if_pos (hnil.mpr hnone), if_pos hnone]
  · rw [if_neg (mt hnil.mp hnone), if_neg hnone, Option.map_some, Option.map_some, lengths]

end Tended

variable (messages : List (String × List Field))

@[simp] theorem foldl_send_channel (t : Transcript) :
    (messages.foldl (fun t m => t.send m.1 m.2) t).channel = t.channel := by
  induction messages generalizing t with
  | nil => rfl
  | cons m messages ih => simp [ih]

theorem foldl_send_privately (t : Transcript) (person : String) :
    (messages.foldl (fun t m => t.send m.1 m.2) t).privately person =
      t.privately person ++ messages.flatMap fun m => if m.1 = person then m.2 else [] := by
  induction messages generalizing t with
  | nil => simp
  | cons m messages ih => simp [ih, send_privately]

end Transcript

/-! ## One turn -/

theorem sendHand_eq (t : Transcript) (hand : Hand) :
    sendHand t hand = t.send hand.1 (handFields hand.2) := by
  unfold sendHand handFields
  by_cases h : hand.2 = []
  · simp [h, Transcript.send]
  · simp [h]

/-- The hands of a deal are told as messages, one after the other. -/
theorem foldl_sendHand (hands : List Hand) (t : Transcript) :
    hands.foldl sendHand t =
      (hands.map fun hand => (hand.1, handFields hand.2)).foldl (fun t m => t.send m.1 m.2) t := by
  have same : sendHand = fun t hand => t.send hand.1 (handFields hand.2) := by
    funext t hand
    exact sendHand_eq t hand
  rw [List.foldl_map, same]

namespace Turn

/-- What everybody is told of a turn, with the count of what nobody got where no moderator is. -/
def heard (moderator : Option String) (turn : Turn) : List Field :=
  turn.aloud ++ if moderator = none then turn.undealtCount else []

theorem heard_some (moderator : String) : heard (some moderator) = aloud := by
  funext turn
  simp [heard]

theorem heard_none : heard none = fun turn => turn.aloud ++ turn.undealtCount := by
  funext turn
  simp [heard]

/-- What a person is told in private of a turn. A moderator is told the roll-up, too. -/
def received (moderator : Option String) (person : String) (turn : Turn) : List Field :=
  turn.whispers person ++ if moderator = some person then turn.rollUp else []

theorem tell_channel (moderator : Option String) (t : Transcript) (turn : Turn) :
    (turn.tell moderator t).channel = t.channel ++ turn.heard moderator := by
  cases turn with
  | dealt d sizes =>
    cases moderator with
    | none =>
      by_cases h : d.leftover = []
      · simp [tell, report, heard, aloud, undealtCount, foldl_sendHand, h]
      · simp [tell, report, heard, aloud, undealtCount, foldl_sendHand, h]
    | some moderator => simp [tell, report, heard, aloud, foldl_sendHand]
  | shown messages => simp [tell, heard, aloud, undealtCount]
  | told fields => simp [tell, heard, aloud, undealtCount]

theorem tell_privately (moderator : Option String) (t : Transcript) (turn : Turn)
    (person : String) :
    (turn.tell moderator t).privately person =
      t.privately person ++ turn.received moderator person := by
  cases turn with
  | dealt d sizes =>
    have whispered : (d.hands.foldl sendHand (t.tell sizes)).privately person =
        t.privately person ++ whispers person (.dealt d sizes) := by
      simp [foldl_sendHand, Transcript.foldl_send_privately, whispers, List.flatMap_map]
    cases moderator with
    | none =>
      by_cases h : d.leftover = []
      · simp [tell, report, received, whispered, h]
      · simp [tell, report, received, whispered, h]
    | some moderator =>
      simp [tell, report, received, Transcript.send_privately, whispered, rollUp]
  | shown messages =>
    simp [tell, received, whispers, rollUp, Transcript.foldl_send_privately]
  | told fields => simp [tell, received, whispers, rollUp]

theorem tell_tended (moderator : Option String) {t : Transcript} (h : t.Tended) (turn : Turn) :
    (turn.tell moderator t).Tended := by
  cases turn with
  | dealt d sizes =>
    have whispered : (d.hands.foldl sendHand (t.tell sizes)).Tended := by
      rw [foldl_sendHand]
      exact (h.tell sizes).foldl_send _
    cases moderator with
    | none =>
      simp only [tell, report]
      split
      · exact whispered
      · exact whispered.tell _
    | some moderator => exact whispered.send _ _
  | shown messages => exact h.foldl_send messages
  | told fields => exact h.tell fields

end Turn

/-- A rule that runs works a turn out and tells it. -/
theorem Rule.exists_turn (rule : Rule) (names : Names) (seats : Seats) {game game' : Game}
    {run final : Run} (h : rule.run names seats game run = .ok game' final) :
    ∃ turn, rule.turn names seats.members game.held run = .ok turn final ∧
      game' = game.after seats.moderator turn := by
  rw [Rule.run_eq, map_eq_pure_bind] at h
  obtain ⟨turn, _, hturn, h⟩ := Eval.exists_of_bind_ok h
  cases h
  exact ⟨turn, hturn, rfl⟩

/-! ## All turns -/

/-- A game that is played works its turns out and tells them. -/
theorem exists_turns {names : Names} {seats : Seats} {game game' : Game} {rules : List Rule}
    {run final : Run} (h : playFrom names seats game rules run = .ok game' final) :
    ∃ ts, turns names seats.members game.held rules run = .ok ts final ∧
      game' = ts.foldl (Game.after seats.moderator) game := by
  rw [playFrom_eq, map_eq_pure_bind] at h
  obtain ⟨ts, _, hts, h⟩ := Eval.exists_of_bind_ok h
  cases h
  exact ⟨ts, hts, rfl⟩

namespace Game

theorem told_foldl_after_tended (moderator : Option String) {game : Game} (h : game.told.Tended)
    (ts : List Turn) : (ts.foldl (after moderator) game).told.Tended := by
  induction ts generalizing game with
  | nil => exact h
  | cons turn ts ih => exact ih (turn.tell_tended moderator h)

theorem channel_foldl_after (moderator : Option String) (game : Game) (ts : List Turn) :
    (ts.foldl (after moderator) game).told.channel =
      game.told.channel ++ ts.flatMap (Turn.heard moderator) := by
  induction ts generalizing game with
  | nil => simp
  | cons turn ts ih => simp [ih, after, Turn.tell_channel]

theorem privately_foldl_after (moderator : Option String) (game : Game) (ts : List Turn)
    (person : String) :
    (ts.foldl (after moderator) game).told.privately person =
      game.told.privately person ++ ts.flatMap (Turn.received moderator person) := by
  induction ts generalizing game with
  | nil => simp
  | cons turn ts ih => simp [ih, after, Turn.tell_privately]

theorem channel_from_start (moderator : Option String) (ts : List Turn) :
    (ts.foldl (after moderator) {}).told.channel = ts.flatMap (Turn.heard moderator) := by
  rw [channel_foldl_after]
  rfl

theorem privately_from_start (moderator : Option String) (ts : List Turn) (person : String) :
    (ts.foldl (after moderator) {}).told.privately person =
      ts.flatMap (Turn.received moderator person) := by
  rw [privately_foldl_after]
  rfl

end Game

/-! ## Only members are dealt to -/

/-- Only members hold cards. -/
def Seated (members : List String) (held : Holdings) : Prop :=
  ∀ cumulative, ∀ name ∈ (held.hands cumulative).names, name ∈ members

/-- A turn deals to members only, and whispers to members only. -/
def Turn.Among (members : List String) : Turn → Prop
  | .dealt d _ => ∀ hand ∈ d.hands, hand.1 ∈ members
  | .shown messages => ∀ m ∈ messages, m.1 ∈ members
  | .told _ => True

variable {names : Names} {members : List String} {held : Holdings} {run final : Run}

theorem Seated.start (members : List String) : Seated members {} := by
  intro cumulative name h
  cases cumulative <;> cases h

theorem mem_names_addHands {hands : List Hand} {entries : ByName (List String)} {name : String}
    (h : name ∈ (Holdings.addHands entries hands).names) :
    name ∈ entries.names ∨ ∃ hand ∈ hands, hand.1 = name := by
  induction hands generalizing entries with
  | nil => exact Or.inl h
  | cons hand hands ih =>
    rcases ih h with hold | ⟨other, hother, hname⟩
    · by_cases hempty : hand.2 = []
      · simp only [hempty, if_true] at hold
        exact Or.inl hold
      · simp only [hempty, if_false] at hold
        rcases ByName.mem_names_put hold with rfl | hold
        · exact Or.inr ⟨hand, List.mem_cons_self .., rfl⟩
        · exact Or.inl hold
    · exact Or.inr ⟨other, List.mem_cons_of_mem _ hother, hname⟩

/-- A turn among the members leaves only members with cards. -/
theorem Seated.hold {turn : Turn} (h : Seated members held) (ht : turn.Among members) :
    Seated members (turn.hold held) := by
  cases turn with
  | dealt d sizes =>
    intro cumulative name hname
    cases cumulative with
    | true =>
      rcases mem_names_addHands hname with hold | ⟨hand, hhand, rfl⟩
      · exact h true name hold
      · exact ht hand hhand
    | false =>
      rcases mem_names_addHands hname with hold | ⟨hand, hhand, rfl⟩
      · cases hold
      · exact ht hand hhand
  | shown messages => exact h
  | told fields => exact h

/-- Those who hold a card of a kind are members, each counted once. -/
theorem holders_sublist {m : Matcher} {found : List String}
    (h : holders names held m members run = .ok found final) : found.Sublist members := by
  induction members generalizing found run final with
  | nil =>
    cases h
    exact List.Sublist.refl _
  | cons member members ih =>
    obtain ⟨b, r₁, hb, h⟩ := Eval.exists_of_bind_ok h
    obtain ⟨others, r₂, hothers, h⟩ := Eval.exists_of_bind_ok h
    have := ih hothers
    cases h
    cases b with
    | true => exact this.cons_cons member
    | false => exact this.cons member

theorem recipientsOf_sublist {m : Option Matcher} {found : List String}
    (h : recipientsOf names held members m run = .ok found final) : found.Sublist members := by
  cases m with
  | none =>
    cases h
    exact List.Sublist.refl _
  | some m => exact holders_sublist h

theorem DealRule.dealing_among {rule : DealRule} {d : Dealt}
    (h : rule.dealing names members held run = .ok d final) :
    ∀ hand ∈ d.hands, hand.1 ∈ members := by
  obtain ⟨deck, _, _, h⟩ := Eval.exists_of_bind_ok h
  obtain ⟨pile, _, _, h⟩ := Eval.exists_of_bind_ok h
  obtain ⟨found, _, hfound, h⟩ := Eval.exists_of_bind_ok h
  obtain ⟨recipients, _, hrecipients, h⟩ := Eval.exists_of_bind_ok h
  obtain ⟨limit, _, _, h⟩ := Eval.exists_of_bind_ok h
  cases h
  intro hand hhand
  have hname : hand.1 ∈ recipients := by
    rw [← Dealt.ofPile_names pile recipients limit]
    exact List.mem_map_of_mem hhand
  exact (recipientsOf_sublist hfound).subset ((shuffled_ok hrecipients).1.mem_iff.mp hname)

theorem revealMessages_names {rule : RevealRule} {hideSame : Bool} {limit : Option Nat}
    {hands rest : List Hand} {messages : List (String × List Field)}
    (h : revealMessages names rule hideSame limit hands rest run = .ok messages final) :
    messages.map Prod.fst = rest.map Prod.fst := by
  induction rest generalizing messages run final with
  | nil =>
    cases h
    rfl
  | cons hand rest ih =>
    obtain ⟨entries, _, _, h⟩ := Eval.exists_of_bind_ok h
    obtain ⟨kept, _, _, h⟩ := Eval.exists_of_bind_ok h
    obtain ⟨others, _, hothers, h⟩ := Eval.exists_of_bind_ok h
    cases h
    simp [ih hothers]

theorem Rule.turn_among {rule : Rule} {turn : Turn} (hseated : Seated members held)
    (h : rule.turn names members held run = .ok turn final) : turn.Among members := by
  cases rule with
  | deal r =>
    obtain ⟨d, _, hd, h⟩ := Eval.exists_of_bind_ok h
    obtain ⟨sizes, _, _, h⟩ := Eval.exists_of_bind_ok h
    cases h
    exact DealRule.dealing_among hd
  | reveal r =>
    obtain ⟨cumulative, _, _, h⟩ := Eval.exists_of_bind_ok h
    obtain ⟨hideSame, _, _, h⟩ := Eval.exists_of_bind_ok h
    obtain ⟨limit, _, _, h⟩ := Eval.exists_of_bind_ok h
    obtain ⟨messages, _, hmessages, h⟩ := Eval.exists_of_bind_ok h
    cases h
    intro m hm
    apply hseated cumulative
    unfold ByName.names
    rw [← revealMessages_names hmessages]
    exact List.mem_map_of_mem hm
  | announce r =>
    obtain ⟨cumulative, _, _, h⟩ := Eval.exists_of_bind_ok h
    obtain ⟨limit, _, _, h⟩ := Eval.exists_of_bind_ok h
    obtain ⟨entries, _, _, h⟩ := Eval.exists_of_bind_ok h
    obtain ⟨shuffledEntries, _, _, h⟩ := Eval.exists_of_bind_ok h
    cases h
    trivial
  | explain r =>
    cases h
    trivial

theorem Rule.guarded_among {rule : Rule} {turn : Turn} (hseated : Seated members held)
    (h : rule.guarded names members held run = .ok turn final) : turn.Among members := by
  obtain ⟨b, _, _, h⟩ := Eval.exists_of_bind_ok h
  cases b with
  | true => exact rule.turn_among hseated h
  | false =>
    cases h
    trivial

/-- Whatever the rules are, every turn is among the members. -/
theorem turns_among {rules : List Rule} {ts : List Turn} (hseated : Seated members held)
    (h : turns names members held rules run = .ok ts final) :
    ∀ turn ∈ ts, turn.Among members := by
  induction rules generalizing held ts run final with
  | nil =>
    cases h
    simp
  | cons rule rules ih =>
    obtain ⟨turn, _, hturn, h⟩ := Eval.exists_of_bind_ok h
    obtain ⟨others, _, hothers, h⟩ := Eval.exists_of_bind_ok h
    cases h
    have among := rule.guarded_among hseated hturn
    intro t ht
    rcases List.mem_cons.mp ht with rfl | ht
    · exact among
    · exact ih (hseated.hold among) hothers t ht

/-- Nobody else is whispered to. -/
theorem Turn.Among.whispers_eq_nil {turn : Turn} (h : turn.Among members) {person : String}
    (hperson : person ∉ members) : turn.whispers person = [] := by
  cases turn with
  | dealt d sizes =>
    simp only [Turn.whispers, List.flatMap_eq_nil_iff]
    intro hand hhand
    have : hand.1 ≠ person := fun heq => hperson (heq ▸ h hand hhand)
    simp [this]
  | shown messages =>
    simp only [Turn.whispers, List.flatMap_eq_nil_iff]
    intro m hm
    have : m.1 ≠ person := fun heq => hperson (heq ▸ h m hm)
    simp [this]
  | told fields => rfl

end Dealer
