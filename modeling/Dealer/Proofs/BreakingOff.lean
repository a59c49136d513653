-- Where reading is broken off. Only the sign of a number can be too much for 64 bits, so
-- what breaks a reading off is a number that the reader comes to, and everything in front of
-- that number is read as the grammar has it.
import Dealer.Proofs.Literals
import Dealer.Proofs.Rendering

namespace Dealer

open Grammar

/-- Two minuses stand in front of the digits of the smallest whole number: its sign, and one more in
front of that. -/
def TwoMinuses (place : List Char) : Prop :=
  ∃ token rest, place = '-' :: (token ++ rest) ∧ Smallest token ∧ Stops continuesNumber rest

mutual

/-- Whoever reads a value from here on comes to the value that begins at `place`. -/
inductive ComesTo (place : List Char) : List Char → Prop
  | here {f : List Char} (hf : Filler False f) : ComesTo place (f ++ place)
  | list {f cs : List Char} (hf : Filler False f) (h : ItemsComeTo place cs) :
      ComesTo place (f ++ '[' :: cs)
  | object {f cs : List Char} (hf : Filler False f) (h : MembersComeTo place cs) :
      ComesTo place (f ++ '\x7b' :: cs)

/-- Whoever reads the items of a list from here on comes to the value that begins at `place`. The
items in front of it can be read. -/
inductive ItemsComeTo (place : List Char) : List Char → Prop
  | item {cs : List Char} (h : ComesTo place cs) : ItemsComeTo place cs
  | more {f v g cs : List Char} {d : Document} (hf : Filler False f) (hv : Value v d)
      (hg : Filler False g) (h : ItemsComeTo place cs) :
      ItemsComeTo place (f ++ (v ++ (g ++ ',' :: cs)))

/-- Whoever reads the members of an object from here on comes to the value that begins at `place`.
The members in front of it can be read. -/
inductive MembersComeTo (place : List Char) : List Char → Prop
  | member {f k g cs : List Char} {key : String} (hf : Filler False f) (hk : MemberKey k key)
      (hg : Filler False g) (h : ComesTo place cs) :
      MembersComeTo place (f ++ (k ++ (g ++ ':' :: cs)))
  | more {f k g i v j cs : List Char} {key : String} {d : Document} (hf : Filler False f)
      (hk : MemberKey k key) (hg : Filler False g) (hi : Filler False i) (hv : Value v d)
      (hj : Filler False j) (h : MembersComeTo place cs) :
      MembersComeTo place (f ++ (k ++ (g ++ ':' :: (i ++ (v ++ (j ++ ',' :: cs))))))

end

/-! ## Tokens -/

theorem Grammar.Smallest.token {token : List Char} (h : Smallest token) : NumberToken token := by
  obtain ⟨x, digits, hx, rfl, hn⟩ := h
  refine hex_token hx ?_
  intro c hc
  rcases List.mem_cons.mp hc with rfl | hc
  · decide
  · exact hn.continues c hc

theorem readUnsigned_overflow_iff {start cs : List Char} {negative : Bool} {cause : Overflow} :
    (readUnsigned start negative cs).outcome = .error (.overflow cause) ↔
      cause = .negation ∧ negative = true ∧
        ∃ token rest, cs = token ++ rest ∧ Smallest token ∧ Stops continuesNumber rest := by
  constructor
  · intro h
    unfold readUnsigned at h
    cases cs with
    | nil => cases h
    | cons c r =>
      dsimp only at h
      split at h
      · split at h
        · cases h
        · cases h
        · rename_i hvalue
          cases h
          obtain ⟨rfl, rfl, hsmallest⟩ := numberValue_error_iff.mp hvalue
          refine ⟨rfl, rfl, _, _, ?_, hsmallest, stops_dropWhile _ r⟩
          rw [List.cons_append, List.takeWhile_append_dropWhile]
      · cases h
  · rintro ⟨rfl, rfl, token, rest, rfl, hsmallest, hrest⟩
    have hvalue := numberValue_error_iff.mpr ⟨rfl, rfl, hsmallest⟩
    obtain ⟨c, run, rfl, hc, hrun⟩ := hsmallest.token
    obtain ⟨htake, hdrop⟩ := takeWhile_of_stops hrun hrest
    unfold readUnsigned
    rw [List.cons_append]
    dsimp only
    rw [if_pos hc]
    simp only [htake, hvalue]
    rfl

/-- Reading a number is broken off exactly behind two minuses. -/
theorem readNumber_overflow_iff {cs : List Char} {cause : Overflow} :
    (readNumber cs).outcome = .error (.overflow cause) ↔ cause = .negation ∧ TwoMinuses cs := by
  constructor
  · intro h
    unfold readNumber at h
    split at h
    · rw [outcome_longer] at h
      obtain ⟨rfl, -, token, rest, rfl, hsmallest⟩ := readUnsigned_overflow_iff.mp h
      exact ⟨rfl, token, rest, rfl, hsmallest⟩
    · rw [outcome_longer] at h
      cases (readUnsigned_overflow_iff.mp h).2.1
    · cases (readUnsigned_overflow_iff.mp h).2.1
  · rintro ⟨rfl, token, rest, rfl, hsmallest⟩
    rw [readNumber_minus]
    exact readUnsigned_overflow_iff.mpr ⟨rfl, rfl, token, rest, rfl, hsmallest⟩

theorem readMark_ne_overflow {mark : Char} {cs : List Char} {cause : Overflow} :
    (readMark mark cs).outcome ≠ .error (.overflow cause) := by
  intro h
  unfold readMark at h
  split at h
  · cases h
  · split at h <;> cases h

theorem readKey_ne_overflow {cs : List Char} {cause : Overflow} :
    (readKey cs).outcome ≠ .error (.overflow cause) := by
  intro h
  unfold readKey at h
  cases cs with
  | nil => cases h
  | cons c r =>
    dsimp only at h
    split at h
    · split at h <;> cases h
    · split at h <;> cases h

theorem readText_ne_overflow {quote : Char} {cs : List Char} {cause : Overflow} :
    (readText quote cs).outcome ≠ .error (.overflow cause) := by
  intro h
  unfold readText at h
  split at h <;> cases h

theorem twoMinuses_of_readWord {cs : List Char} {cause : Overflow}
    (h : (readWord cs).outcome = .error (.overflow cause)) : cause = .negation ∧ TwoMinuses cs := by
  unfold readWord at h
  split at h
  · cases h
  · cases h
  · cases h
  · exact readNumber_overflow_iff.mp h

theorem TwoMinuses.begins {place : List Char} (h : TwoMinuses place) : Begins place := by
  obtain ⟨token, rest, rfl, -⟩ := h
  exact ⟨_, _, rfl, by decide⟩

theorem TwoMinuses.readValue {cs place : List Char} (h : TwoMinuses place)
    (hs : skipFiller cs = place) : (readValue cs).outcome = .error (.overflow .negation) := by
  have hnumber := readNumber_overflow_iff.mpr ⟨rfl, h⟩
  obtain ⟨token, rest, rfl, -⟩ := h
  rw [readValue_word hs (by decide), readWord_of_ne (by decide)]
  exact hnumber

/-! ## What broke a reading off -/

/-- Members that do not end at once and are broken off have a key and a colon first. -/
theorem key_of_broken {cs : List Char} {cause : Overflow}
    (hclose : ∀ r, skipFiller cs ≠ '\x7d' :: r)
    (h : (readMembers cs).outcome = .error (.overflow cause)) :
    ∃ f k g r key, Filler False f ∧ MemberKey k key ∧ Filler False g ∧
      cs = f ++ (k ++ (g ++ ':' :: r)) ∧
      ((readValue r).outcome >>= fun value => readMoreMembers (key, value.1) value.2) =
        .error (.overflow cause) := by
  rw [readMembers_member hclose] at h
  obtain ⟨⟨key, r₁⟩, hkey, h⟩ := (bind_eq_error.mp h).resolve_left readKey_ne_overflow
  obtain ⟨⟨_, r₂⟩, hcolon, h⟩ := (bind_eq_error.mp h).resolve_left readMark_ne_overflow
  obtain ⟨f, k, g, hf, hk, hg, hcs⟩ := key_and_colon hkey hcolon
  exact ⟨f, k, g, r₂, key, hf, hk, hg, hcs, h⟩

mutual

theorem comesTo_of_readValue {cs : List Char} {cause : Overflow}
    (h : (readValue cs).outcome = .error (.overflow cause)) :
    cause = .negation ∧ ∃ place, ComesTo place cs ∧ TwoMinuses place := by
  cases hs : skipFiller cs with
  | nil =>
    rw [readValue_nil hs] at h
    cases h
  | cons c r =>
    have hlt := length_lt_of_skipFiller hs
    obtain ⟨f, hf, hcs⟩ := filler_of_skipFiller_eq_cons hs
    rw [readValue_cons hs] at h
    split at h
    · rename_i hc
      obtain ⟨rfl, place, hcomes, htwo⟩ := membersComeTo_of_readMembers (bind_ok_eq_error.mp h)
      exact ⟨rfl, place, by rw [hcs, hc]; exact .object hf hcomes, htwo⟩
    · split at h
      · rename_i hc
        obtain ⟨rfl, place, hcomes, htwo⟩ := itemsComeTo_of_readItems (bind_ok_eq_error.mp h)
        exact ⟨rfl, place, by rw [hcs, hc]; exact .list hf hcomes, htwo⟩
      · split at h
        · exact absurd h readText_ne_overflow
        · obtain ⟨rfl, htwo⟩ := twoMinuses_of_readWord h
          exact ⟨rfl, c :: r, hcs ▸ .here hf, htwo⟩
termination_by (cs.length, 0)

theorem itemsComeTo_of_readItems {cs : List Char} {cause : Overflow}
    (h : (readItems cs).outcome = .error (.overflow cause)) :
    cause = .negation ∧ ∃ place, ItemsComeTo place cs ∧ TwoMinuses place := by
  by_cases hclose : ∃ r, skipFiller cs = ']' :: r
  · obtain ⟨r, hr⟩ := hclose
    rw [readItems_close hr] at h
    cases h
  · rw [readItems_item fun r hr => hclose ⟨r, hr⟩] at h
    rcases bind_eq_error.mp h with hvalue | ⟨⟨d, r₁⟩, hvalue, hmore⟩
    · obtain ⟨rfl, place, hcomes, htwo⟩ := comesTo_of_readValue hvalue
      exact ⟨rfl, place, .item hcomes, htwo⟩
    · have h₁ := Reading.length_of_outcome hvalue
      obtain ⟨f, v, hf, hv, hcs⟩ := value_of_readValue hvalue
      by_cases hcomma : ∃ r, skipFiller r₁ = ',' :: r
      · obtain ⟨r₂, hr₂⟩ := hcomma
        have h₂ := length_lt_of_skipFiller hr₂
        rw [readMoreItems_comma hr₂] at hmore
        have hothers := bind_ok_eq_error.mp hmore
        obtain ⟨g, hg, hr₁⟩ := filler_of_skipFiller_eq_cons hr₂
        obtain ⟨rfl, place, hcomes, htwo⟩ := itemsComeTo_of_readItems hothers
        exact ⟨rfl, place, by rw [hcs, hr₁]; exact .more hf hv hg hcomes, htwo⟩
      · rw [readMoreItems_close fun r hr => hcomma ⟨r, hr⟩] at hmore
        exact absurd (bind_ok_eq_error.mp hmore) readMark_ne_overflow
termination_by (cs.length, 1)

theorem membersComeTo_of_readMembers {cs : List Char} {cause : Overflow}
    (h : (readMembers cs).outcome = .error (.overflow cause)) :
    cause = .negation ∧ ∃ place, MembersComeTo place cs ∧ TwoMinuses place := by
  by_cases hclose : ∃ r, skipFiller cs = '\x7d' :: r
  · obtain ⟨r, hr⟩ := hclose
    rw [readMembers_close hr] at h
    cases h
  · obtain ⟨f, k, g, r₁, key, hf, hk, hg, hcs, h⟩ :=
      key_of_broken (fun r hr => hclose ⟨r, hr⟩) h
    have h₁ := congrArg List.length hcs
    simp only [List.length_append, List.length_cons] at h₁
    rcases bind_eq_error.mp h with hvalue | ⟨⟨d, r₂⟩, hvalue, hmore⟩
    · obtain ⟨rfl, place, hcomes, htwo⟩ := comesTo_of_readValue hvalue
      exact ⟨rfl, place, hcs ▸ .member hf hk hg hcomes, htwo⟩
    · have h₂ : r₂.length < r₁.length := Reading.length_of_outcome hvalue
      obtain ⟨i, v, hi, hv, (hr₁ : r₁ = i ++ (v ++ r₂))⟩ := value_of_readValue hvalue
      by_cases hcomma : ∃ r, skipFiller r₂ = ',' :: r
      · obtain ⟨r₃, hr₃⟩ := hcomma
        have h₃ := length_lt_of_skipFiller hr₃
        rw [readMoreMembers_comma hr₃] at hmore
        have hothers := bind_ok_eq_error.mp hmore
        obtain ⟨j, hj, hr₂⟩ := filler_of_skipFiller_eq_cons hr₃
        obtain ⟨rfl, place, hcomes, htwo⟩ := membersComeTo_of_readMembers hothers
        exact ⟨rfl, place, by rw [hcs, hr₁, hr₂]; exact .more hf hk hg hi hv hj hcomes, htwo⟩
      · rw [readMoreMembers_close fun r hr => hcomma ⟨r, hr⟩] at hmore
        exact absurd (bind_ok_eq_error.mp hmore) readMark_ne_overflow
termination_by (cs.length, 1)

end

/-! ## What breaks a reading off -/

theorem ComesTo.begins {place cs : List Char} (h : ComesTo place cs)
    (htwo : TwoMinuses place) : ∃ f rest, Filler False f ∧ Begins rest ∧ cs = f ++ rest := by
  cases h with
  | @here f hf => exact ⟨f, place, hf, htwo.begins, rfl⟩
  | @list f cs hf h => exact ⟨f, '[' :: cs, hf, ⟨_, _, rfl, by decide⟩, rfl⟩
  | @object f cs hf h => exact ⟨f, '\x7b' :: cs, hf, ⟨_, _, rfl, by decide⟩, rfl⟩

mutual

theorem ComesTo.broken {place cs : List Char} (h : ComesTo place cs)
    (htwo : TwoMinuses place) : (readValue cs).outcome = .error (.overflow .negation) := by
  cases h with
  | here hf => exact htwo.readValue (skipFiller_append hf htwo.begins.plain False.elim)
  | @list f body hf h =>
    have hs : skipFiller (f ++ '[' :: body) = '[' :: body :=
      skipFiller_append hf (Plain.cons (by decide) body) False.elim
    rw [readValue_cons hs, if_neg (by decide), if_pos rfl, h.broken htwo, error_bind]
  | @object f body hf h =>
    have hs : skipFiller (f ++ '\x7b' :: body) = '\x7b' :: body :=
      skipFiller_append hf (Plain.cons (by decide) body) False.elim
    rw [readValue_cons hs, if_pos rfl, h.broken htwo, error_bind]
termination_by 2 * cs.length

theorem ItemsComeTo.broken {place cs : List Char} (h : ItemsComeTo place cs)
    (htwo : TwoMinuses place) : (readItems cs).outcome = .error (.overflow .negation) := by
  cases h with
  | item h =>
    have hvalue := h.broken htwo
    obtain ⟨f, rest, hf, hrest, rfl⟩ := h.begins htwo
    exact readItems_of_error hf hrest hvalue
  | @more f v g cs d hf hv hg h =>
    obtain ⟨hcomma, hstops, _⟩ := behind_filler hg (c := ',') (by decide) cs
    have hbegins := hv.begins.append (g ++ ',' :: cs)
    have hs := skipFiller_append hf hbegins.plain False.elim
    rw [readItems_item fun r hr => hbegins.ne (by decide) r (hs.symm.trans hr)]
    rw [readValue_of_value hv hs hstops, ok_bind, readMoreItems_comma hcomma]
    rw [h.broken htwo, error_bind]
termination_by 2 * cs.length + 1

theorem MembersComeTo.broken {place cs : List Char} (h : MembersComeTo place cs)
    (htwo : TwoMinuses place) : (readMembers cs).outcome = .error (.overflow .negation) := by
  cases h with
  | member hf hk hg h => rw [readMembers_of_key hf hk hg, h.broken htwo, error_bind]
  | @more f k g i v j cs key d hf hk hg hi hv hj h =>
    obtain ⟨hcomma, hstops, _⟩ := behind_filler hj (c := ',') (by decide) cs
    have hvalue := hv.begins.append (j ++ ',' :: cs)
    have hsv := skipFiller_append hi hvalue.plain False.elim
    rw [readMembers_of_key hf hk hg, readValue_of_value hv hsv hstops, ok_bind]
    rw [readMoreMembers_comma hcomma, h.broken htwo, error_bind]
termination_by 2 * cs.length + 1

end

/-! ## Whole texts -/

/-- Reading is broken off exactly where the reader comes to two minuses, whatever stands behind
them. -/
theorem readDocument_overflow_iff {cs : List Char} {cause : Overflow} :
    readDocument cs = .error (.overflow cause) ↔
      cause = .negation ∧ ∃ place, ComesTo place cs ∧ TwoMinuses place := by
  have hvalue : readDocument cs = .error (.overflow cause) ↔
      (readValue cs).outcome = .error (.overflow cause) := by
    unfold readDocument
    cases readValue cs with
    | stopped halt => simp [Reading.outcome, Halt.map_eq_overflow]
    | done d rest hlt =>
      dsimp only [Reading.outcome]
      split <;> simp
  rw [hvalue]
  constructor
  · exact comesTo_of_readValue
  · rintro ⟨rfl, place, hcomes, htwo⟩
    exact hcomes.broken htwo

theorem read_overflow_iff {text : String} {cause : Overflow} :
    Document.read text = .error (.overflow cause) ↔
      nestsWithin maxNesting .code 0 text.toList = true ∧ cause = .negation ∧
        ∃ place, ComesTo place text.toList ∧ TwoMinuses place := by
  rw [← readDocument_overflow_iff]
  unfold Document.read
  split
  · rename_i h
    rw [and_iff_right h, mapError_eq_error]
    constructor
    · rintro ⟨halt, hread, hhalt⟩
      rw [hread, Halt.map_eq_overflow.mp hhalt]
    · intro hread
      exact ⟨_, hread, rfl⟩
  · rename_i h
    constructor
    · intro heq
      cases heq
    · exact fun heq => absurd heq.1 h

end Dealer
