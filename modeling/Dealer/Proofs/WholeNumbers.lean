-- Whether the whole numbers of a text stay within 64 bits. A number is read without its sign
-- and then negated, so it must not be the smallest. Only behind a sign of its own it can be,
-- and then two minuses stand in front of it and reading is broken off.
import Dealer.Proofs.BreakingOff

namespace Dealer

open Grammar

/-- A whole number inside a document. -/
inductive Document.Holds (n : Int) : Document → Prop
  | self : Holds n (.int n)
  | item {items : List Document} {d : Document} (hd : d ∈ items) (h : Holds n d) :
      Holds n (.list items)
  | member {members : List (String × Document)} {key : String} {d : Document}
      (hd : (key, d) ∈ members) (h : Holds n d) : Holds n (.object members)

/-- At this place a number begins, and without its sign it is `n`. -/
def UnsignedAt (place : List Char) (negative : Bool) (n : Int) : Prop :=
  ∃ sign digits rest, Sign sign negative ∧ place = sign ++ digits ∧
    (readUnsigned place false digits).outcome = .ok (.int n, rest)

/-- What becomes of the whole numbers in a text, whatever else stands there. -/
structure NegatesWithinInt64 (text : String) : Prop where
  /-- Without two minuses a number and its negation are within 64 bits, and the negation is read. -/
  once : ∀ place n, place <:+ text.toList → UnsignedAt place true n → ¬TwoMinuses place →
    InInt64 (-n) ∧ ∃ rest, (readNumber place).outcome = .ok (.int (-n), rest)
  /-- Behind two minuses the negation of the smallest number is not, and it is not worked out. -/
  twice : ∀ place, place <:+ text.toList → TwoMinuses place →
    UnsignedAt place true (-(maxInt64 + 1)) ∧ ¬InInt64 (maxInt64 + 1) ∧
      (readNumber place).outcome = .error (.overflow .negation)
  /-- Reading the text is broken off by nothing else, and exactly where the reader comes to them. -/
  brokenOff : ∀ cause, Document.read text = .error (.overflow cause) ↔
    nestsWithin maxNesting .code 0 text.toList = true ∧ cause = .negation ∧
      ∃ place, ComesTo place text.toList ∧ TwoMinuses place
  /-- A document holds what is read at some place of its text, with its sign. -/
  document : ∀ d n, Document.read text = .ok d → d.Holds n →
    InInt64 n ∧ ∃ place negative m rest, place <:+ text.toList ∧ UnsignedAt place negative m ∧
      (readNumber place).outcome = .ok (.int n, rest) ∧ n = signed negative m

/-! ## One number -/

/-- The sign of a token is put in front of the whole number that it says without it. -/
theorem numberValue_int_iff {negative : Bool} {token : List Char} {m : Int} :
    numberValue? negative token = .ok (some (.int m)) ↔
      ∃ n, numberValue? false token = .ok (some (.int n)) ∧ m = signed negative n ∧
        m ≤ maxInt64 := by
  simp only [numberValue_iff]
  constructor
  · rintro (h | h)
    · cases h with
      | hex hx hn hle => exact ⟨_, Or.inl (.hex hx hn hle), rfl, signed_le hle negative⟩
      | whole hn => exact ⟨_, Or.inl (.whole hn), rfl, signed_le hn.2 negative⟩
    · cases h with
      | hex hx hsign hne hn hle hfits =>
        exact ⟨_, Or.inr (.hex hx hsign hne hn hle (inInt64_signed hle).2), rfl, hfits⟩
  · rintro ⟨n, h | h, rfl, hfits⟩
    · cases h with
      | hex hx hn hle => exact Or.inl (.hex hx hn hle)
      | whole hn => exact Or.inl (.whole hn)
    · cases h with
      | hex hx hsign hne hn hle => exact Or.inr (.hex hx hsign hne hn hle hfits)

theorem numberValue_smallest {token : List Char} (h : Smallest token) :
    numberValue? false token = .ok (some (.int (-(maxInt64 + 1)))) := by
  obtain ⟨x, digits, hx, rfl, hn⟩ := h
  exact (numberValue_hex_iff hx).mpr
    ⟨['-'], true, digits, _, .minus, rfl, hn, le_rfl, by decide, rfl⟩

/-- Without its sign a whole number is within 64 bits, and it is the smallest only behind a minus
of its own. -/
theorem inInt64_of_numberValue {token : List Char} {n : Int}
    (h : numberValue? false token = .ok (some (.int n))) :
    InInt64 n ∧ (n = -(maxInt64 + 1) → Smallest token) := by
  have natural {k : Nat} (hk : k ≤ maxInt64) :
      InInt64 k ∧ ((k : Int) = -(maxInt64 + 1) → Smallest token) := by
    unfold InInt64
    omega
  rcases numberValue_iff.mp h with h | h
  · cases h with
    | hex hx hn hle => exact natural hle
    | whole hn => exact natural hn.2
  · cases h with
    | @hex x sign digits inner k hx hsign hne hn hle hfits =>
      refine ⟨inInt64_signed hle, ?_⟩
      intro hk
      cases hsign with
      | none => exact absurd rfl hne
      | plus =>
        simp at hk
        omega
      | minus =>
        have hk : k = maxInt64 + 1 := by
          simp at hk
          omega
        subst hk
        exact ⟨x, digits, hx, rfl, hn⟩

theorem readNumber_int_iff {place rest : List Char} {m : Int} :
    (readNumber place).outcome = .ok (.int m, rest) ↔
      ∃ sign negative digits n, Sign sign negative ∧ place = sign ++ digits ∧
        (readUnsigned place false digits).outcome = .ok (.int n, rest) ∧ m = signed negative n ∧
        m ≤ maxInt64 := by
  rw [readNumber_iff]
  constructor
  · rintro ⟨sign, negative, c, run, hsign, rfl, hc, hrun, hrest, hvalue⟩
    obtain ⟨n, hn, hm⟩ := numberValue_int_iff.mp hvalue
    exact ⟨sign, negative, c :: (run ++ rest), n, hsign, rfl,
      readUnsigned_iff.mpr ⟨c, run, rfl, hc, hrun, hrest, hn⟩, hm⟩
  · rintro ⟨sign, negative, digits, n, hsign, rfl, hread, hm⟩
    obtain ⟨c, run, rfl, hc, hrun, hrest, hn⟩ := readUnsigned_iff.mp hread
    exact ⟨sign, negative, c, run, hsign, rfl, hc, hrun, hrest,
      numberValue_int_iff.mpr ⟨n, hn, hm⟩⟩

theorem UnsignedAt.inInt64 {place : List Char} {negative : Bool} {n : Int}
    (h : UnsignedAt place negative n) : InInt64 n := by
  obtain ⟨sign, digits, rest, hsign, rfl, hread⟩ := h
  obtain ⟨c, run, rfl, hc, hrun, hrest, hn⟩ := readUnsigned_iff.mp hread
  exact (inInt64_of_numberValue hn).1

/-- Behind one minus the negation of a number is within 64 bits. -/
theorem inInt64_neg {place : List Char} {n : Int} (h : UnsignedAt place true n)
    (hone : ¬TwoMinuses place) : InInt64 (-n) := by
  obtain ⟨sign, digits, rest, hsign, rfl, hread⟩ := h
  cases hsign
  obtain ⟨c, run, rfl, hc, hrun, hrest, hn⟩ := readUnsigned_iff.mp hread
  obtain ⟨hin, hsmallest⟩ := inInt64_of_numberValue hn
  have hne : n ≠ -(maxInt64 + 1) := fun hn => hone ⟨c :: run, rest, rfl, hsmallest hn, hrest⟩
  unfold InInt64 at *
  omega

theorem unsignedAt_of_twoMinuses {place : List Char} (h : TwoMinuses place) :
    UnsignedAt place true (-(maxInt64 + 1)) := by
  obtain ⟨token, rest, rfl, hsmallest, hrest⟩ := h
  have hvalue := numberValue_smallest hsmallest
  obtain ⟨c, run, rfl, hc, hrun⟩ := hsmallest.token
  exact ⟨['-'], _, rest, .minus, rfl,
    readUnsigned_iff.mpr ⟨c, run, rfl, hc, hrun, hrest, hvalue⟩⟩

theorem UnsignedAt.readNumber {place : List Char} {n : Int} (h : UnsignedAt place true n)
    (hn : InInt64 (-n)) : ∃ rest, (readNumber place).outcome = .ok (.int (-n), rest) := by
  obtain ⟨sign, digits, rest, hsign, hplace, hread⟩ := h
  exact ⟨rest, readNumber_int_iff.mpr ⟨sign, true, digits, n, hsign, hplace, hread, rfl, hn.2⟩⟩

/-! ## The whole numbers of a document -/

/-- The whole number `n` is read at some place of a text. -/
def ReadAt (cs : List Char) (n : Int) : Prop :=
  ∃ place, place <:+ cs ∧ ∃ rest, (readNumber place).outcome = .ok (.int n, rest)

theorem ReadAt.of_suffix {cs ds : List Char} {n : Int} (h : ReadAt ds n) (hds : ds <:+ cs) :
    ReadAt cs n := by
  obtain ⟨place, hplace, hread⟩ := h
  exact ⟨place, hplace.trans hds, hread⟩

theorem skipFiller_suffix (cs : List Char) : skipFiller cs <:+ cs := by
  obtain ⟨f, hf, hcs⟩ := filler_of_skipFiller cs
  exact ⟨f, hcs.symm⟩

theorem suffix_of_readValue {cs rest : List Char} {d : Document}
    (h : (readValue cs).outcome = .ok (d, rest)) : rest <:+ cs := by
  obtain ⟨f, v, hf, hv, rfl⟩ := value_of_readValue h
  exact ⟨f ++ v, List.append_assoc f v rest⟩

/-- A number holds no other number. -/
theorem eq_of_holds {negative : Bool} {token : List Char} {d : Document} {n : Int}
    (h : numberValue? negative token = .ok (some d)) (hn : d.Holds n) : d = .int n := by
  rcases numberValue_iff.mp h with h | h
  · cases h with
    | hex hx hdigits hle => cases hn; rfl
    | whole hwhole => cases hn; rfl
    | double hvalue hd hwhole => cases hn
  · cases h with
    | hex hx hsign hne hdigits hle hfits => cases hn; rfl

theorem readAt_of_readWord {cs rest : List Char} {d : Document} {n : Int}
    (h : (readWord cs).outcome = .ok (d, rest)) (hn : d.Holds n) : ReadAt cs n := by
  unfold readWord at h
  split at h
  · cases h
    cases hn
  · cases h
    cases hn
  · cases h
    cases hn
  · obtain ⟨sign, negative, c, run, hsign, rfl, hc, hrun, hrest, hvalue⟩ := readNumber_iff.mp h
    rw [eq_of_holds hvalue hn] at h
    exact ⟨_, List.suffix_refl _, rest, h⟩

mutual

theorem readAt_of_readValue {cs rest : List Char} {d : Document} {n : Int}
    (h : (readValue cs).outcome = .ok (d, rest)) (hn : d.Holds n) : ReadAt cs n := by
  cases hs : skipFiller cs with
  | nil =>
    rw [readValue_nil hs] at h
    cases h
  | cons c r =>
    have hlt := length_lt_of_skipFiller hs
    have hsuffix : c :: r <:+ cs := hs ▸ skipFiller_suffix cs
    have hr : r <:+ cs := (List.suffix_cons c r).trans hsuffix
    rw [readValue_cons hs] at h
    split at h
    · obtain ⟨⟨members, left⟩, hmembers, heq⟩ := bind_eq_ok.mp h
      cases heq
      cases hn with
      | member hd hn =>
        have hd := (ByName.mem_putAll hd).resolve_right List.not_mem_nil
        exact (readAt_of_readMembers hmembers hd hn).of_suffix hr
    · split at h
      · obtain ⟨⟨items, left⟩, hitems, heq⟩ := bind_eq_ok.mp h
        cases heq
        cases hn with
        | item hd hn => exact (readAt_of_readItems hitems hd hn).of_suffix hr
      · split at h
        · rename_i hquote
          obtain ⟨body, text, hbody, _, rfl⟩ := (readText_iff hquote).mp h
          cases hn
        · exact (readAt_of_readWord h hn).of_suffix hsuffix
termination_by (cs.length, 0)

theorem readAt_of_readItems {cs rest : List Char} {ds : List Document} {d : Document} {n : Int}
    (h : (readItems cs).outcome = .ok (ds, rest)) (hd : d ∈ ds) (hn : d.Holds n) :
    ReadAt cs n := by
  by_cases hclose : ∃ r, skipFiller cs = ']' :: r
  · obtain ⟨r, hr⟩ := hclose
    rw [readItems_close hr] at h
    cases h
    cases hd
  · rw [readItems_item fun r hr => hclose ⟨r, hr⟩] at h
    obtain ⟨⟨first, r₁⟩, hvalue, hmore⟩ := bind_eq_ok.mp h
    have h₁ := Reading.length_of_outcome hvalue
    have hsuffix : r₁ <:+ cs := suffix_of_readValue hvalue
    by_cases hcomma : ∃ r, skipFiller r₁ = ',' :: r
    · obtain ⟨r₂, hr₂⟩ := hcomma
      have h₂ := length_lt_of_skipFiller hr₂
      rw [readMoreItems_comma hr₂] at hmore
      obtain ⟨⟨others, left⟩, hothers, heq⟩ := bind_eq_ok.mp hmore
      cases heq
      rcases List.mem_cons.mp hd with rfl | hd
      · exact readAt_of_readValue hvalue hn
      · have hr : r₂ <:+ r₁ := (List.suffix_cons ',' r₂).trans (hr₂ ▸ skipFiller_suffix r₁)
        exact (readAt_of_readItems hothers hd hn).of_suffix (hr.trans hsuffix)
    · rw [readMoreItems_close fun r hr => hcomma ⟨r, hr⟩] at hmore
      obtain ⟨⟨_, left⟩, hmark, heq⟩ := bind_eq_ok.mp hmore
      cases heq
      rw [List.mem_singleton.mp hd] at hn
      exact readAt_of_readValue hvalue hn
termination_by (cs.length, 1)

theorem readAt_of_readMembers {cs rest : List Char} {ds : List (String × Document)} {key : String}
    {d : Document} {n : Int} (h : (readMembers cs).outcome = .ok (ds, rest)) (hd : (key, d) ∈ ds)
    (hn : d.Holds n) : ReadAt cs n := by
  by_cases hclose : ∃ r, skipFiller cs = '\x7d' :: r
  · obtain ⟨r, hr⟩ := hclose
    rw [readMembers_close hr] at h
    cases h
    cases hd
  · obtain ⟨f, k, g, r₁, name, hf, hk, hg, hcs, h⟩ :=
      key_of_readMembers (fun r hr => hclose ⟨r, hr⟩) h
    have h₁ : r₁.length < cs.length := by
      simp only [hcs, List.length_append, List.length_cons]
      omega
    have hsuffix : r₁ <:+ cs := ⟨f ++ (k ++ (g ++ [':'])), by simp [hcs]⟩
    obtain ⟨⟨first, r₂⟩, hvalue, hmore⟩ := bind_eq_ok.mp h
    have h₂ : r₂.length < r₁.length := Reading.length_of_outcome hvalue
    have hleft : r₂ <:+ cs := (suffix_of_readValue hvalue).trans hsuffix
    by_cases hcomma : ∃ r, skipFiller r₂ = ',' :: r
    · obtain ⟨r₃, hr₃⟩ := hcomma
      have h₃ := length_lt_of_skipFiller hr₃
      rw [readMoreMembers_comma hr₃] at hmore
      obtain ⟨⟨others, left⟩, hothers, heq⟩ := bind_eq_ok.mp hmore
      cases heq
      rcases List.mem_cons.mp hd with heq | hd
      · cases heq
        exact (readAt_of_readValue hvalue hn).of_suffix hsuffix
      · have hr : r₃ <:+ r₂ := (List.suffix_cons ',' r₃).trans (hr₃ ▸ skipFiller_suffix r₂)
        exact (readAt_of_readMembers hothers hd hn).of_suffix (hr.trans hleft)
    · rw [readMoreMembers_close fun r hr => hcomma ⟨r, hr⟩] at hmore
      obtain ⟨⟨_, left⟩, hmark, heq⟩ := bind_eq_ok.mp hmore
      cases heq
      cases List.mem_singleton.mp hd
      exact (readAt_of_readValue hvalue hn).of_suffix hsuffix
termination_by (cs.length, 1)

end

/-- The whole numbers of a document are read at some place of its text. -/
theorem readAt_of_readDocument {cs : List Char} {d : Document} {n : Int}
    (h : readDocument cs = .ok d) (hn : d.Holds n) : ReadAt cs n := by
  unfold readDocument at h
  split at h
  · cases h
  · rename_i value rest hlt hvalue
    split at h
    · cases h
      exact readAt_of_readValue (congrArg Reading.outcome hvalue) hn
    · cases h

/-! ## Whole texts -/

/-- A text that is read holds what its characters hold. -/
theorem readAt_of_read {text : String} {d : Document} {n : Int} (h : Document.read text = .ok d)
    (hn : d.Holds n) : ReadAt text.toList n := by
  unfold Document.read at h
  split at h
  · cases hread : readDocument text.toList with
    | ok value =>
      rw [hread] at h
      cases h
      exact readAt_of_readDocument hread hn
    | error e =>
      rw [hread] at h
      cases h
  · cases h

/-- Reading a text negates no whole number out of its 64 bits, except the smallest one where a
second minus stands in front of its digits. There, and only there, reading is broken off. Every
other whole number is read as it is written, and no document holds one that is not within 64
bits. -/
theorem only_behind_two_minuses_a_negation_leaves_its_range (text : String) :
    NegatesWithinInt64 text := by
  constructor
  case once =>
    intro place n _ hunsigned hone
    have hin := inInt64_neg hunsigned hone
    exact ⟨hin, hunsigned.readNumber hin⟩
  case twice =>
    intro place _ htwo
    exact ⟨unsignedAt_of_twoMinuses htwo, by decide, readNumber_overflow_iff.mpr ⟨rfl, htwo⟩⟩
  case brokenOff => exact fun cause => read_overflow_iff
  case document =>
    intro d n hd hn
    obtain ⟨place, hplace, rest, hread⟩ := readAt_of_read hd hn
    obtain ⟨sign, negative, digits, m, hsign, heq, hunsigned, hm, hfits⟩ :=
      readNumber_int_iff.mp hread
    have hat : UnsignedAt place negative m := ⟨sign, digits, rest, hsign, heq, hunsigned⟩
    have hin : InInt64 n := by
      obtain ⟨hleast, hmost⟩ := hat.inInt64
      subst hm
      cases negative with
      | false => exact ⟨hleast, hmost⟩
      | true => exact ⟨by simp; omega, hfits⟩
    exact ⟨hin, place, negative, m, rest, hplace, hat, hread, hm⟩

/-- The smallest whole number behind a second minus would have to be negated, which breaks off the
reading of a text that is nothing but that. -/
theorem two_minuses_break_off_the_reading :
    UnsignedAt "-0x-8000000000000000".toList true (-9223372036854775808) ∧
      ¬InInt64 (- -9223372036854775808) ∧
      Document.read "-0x-8000000000000000" = .error (.overflow .negation) := by
  have shallow : nestsWithin maxNesting .code 0 "-0x-8000000000000000".toList = true := by
    decide +kernel
  have digits : hexNumber? "8000000000000000".toList = some (maxInt64 + 1) := rfl
  have smallest : Smallest "0x-8000000000000000".toList :=
    ⟨'x', _, Or.inl rfl, rfl, numeral_iff_hexNumber?.mpr ⟨by decide, digits⟩⟩
  have two : TwoMinuses "-0x-8000000000000000".toList :=
    ⟨_, [], (List.append_nil _).symm ▸ rfl, smallest, fun c hc => by cases hc⟩
  refine ⟨unsignedAt_of_twoMinuses two, by decide, ?_⟩
  exact read_overflow_iff.mpr ⟨shallow, rfl, _, .here .none, two⟩

end Dealer
