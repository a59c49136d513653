-- The tokens of a script text are read as the grammar has them: marks behind
-- filler, keys, words and numbers. Of a token that could go on, all is read.
import Dealer.Proofs.Filler
import Dealer.Proofs.Quotation

namespace Dealer

open Grammar

/-! ## What a reader gives -/

namespace Reading

variable {α β : Type} {cs ds : List Char}

/-- What was read and what is left, or why there is nothing. Where and how reading failed does not
matter. -/
def outcome : Reading cs α → Except (Halt Unit) (α × List Char)
  | .done a rest _ => .ok (a, rest)
  | .stopped halt => .error (halt.map fun _ => ())

theorem length_of_outcome {r : Reading cs α} {a : α} {rest : List Char}
    (h : r.outcome = .ok (a, rest)) : rest.length < cs.length := by
  cases r with
  | done a rest shorter => cases h; exact shorter
  | stopped halt => cases h

theorem outcome_andThen {r : Reading ds α}
    {next : α → (rest : List Char) → rest.length < ds.length → Reading cs β}
    {g : α × List Char → Except (Halt Unit) (β × List Char)}
    (h : ∀ a rest hlt, (next a rest hlt).outcome = g (a, rest)) :
    (r.andThen next).outcome = r.outcome >>= g := by
  cases r with
  | done a rest shorter => exact h a rest shorter
  | stopped halt => rfl

theorem outcome_hoping (hope : Hope) (r : Reading cs α) : (r.hoping hope).outcome = r.outcome := by
  cases r with
  | done a rest shorter => rfl
  | stopped halt => cases halt <;> rfl

end Reading

/-! ## Marks -/

theorem readMark_outcome {mark : Char} {cs rest : List Char} :
    (readMark mark cs).outcome = .ok ((), rest) ↔ skipFiller cs = mark :: rest := by
  unfold readMark
  split
  · rename_i hs
    constructor
    · intro h
      cases h
    · intro h
      rw [hs] at h
      cases h
  · rename_i c r hs
    split
    · rename_i hc
      constructor
      · intro h
        cases h
        rw [hs, hc]
      · intro h
        rw [hs] at h
        cases h
        rfl
    · rename_i hc
      constructor
      · intro h
        cases h
      · intro h
        rw [hs] at h
        exact absurd (List.cons.inj h).1 hc

/-- A mark is read with the filler in front of it. -/
theorem readMark_iff {mark : Char} {cs rest : List Char}
    (hmark : isBlank mark = false ∧ mark ≠ '/') :
    (readMark mark cs).outcome = .ok ((), rest) ↔
      ∃ f, Filler False f ∧ cs = f ++ mark :: rest := by
  rw [readMark_outcome]
  constructor
  · exact filler_of_skipFiller_eq_cons
  · rintro ⟨f, hf, rfl⟩
    exact skipFiller_append hf (Plain.cons hmark rest) False.elim

/-! ## Runs of characters -/

/-- No run of a class goes on here. -/
def Stops (p : Char → Bool) (cs : List Char) : Prop := ∀ c ∈ cs.head?, p c = false

theorem Stops.cons {p : Char → Bool} {c : Char} (h : p c = false) (cs : List Char) :
    Stops p (c :: cs) := by
  intro x hx
  cases hx
  exact h

/-- Filler stops a run that no blank and no mark goes on with. -/
theorem Grammar.Filler.stops {p : Char → Bool} {last : Prop} {f rest : List Char}
    (hf : Filler last f) (hp : ∀ {c}, Separates c → p c = false) (hrest : Stops p rest) :
    Stops p (f ++ rest) := by
  cases f with
  | nil => exact hrest
  | cons c f =>
    have hc : Separates c := by
      rcases hf.head with hblank | rfl
      · exact Or.inl hblank
      · decide
    exact Stops.cons (hp hc) _

theorem takeWhile_of_stops {p : Char → Bool} {cs rest : List Char} (hcs : ∀ c ∈ cs, p c = true)
    (hrest : Stops p rest) :
    (cs ++ rest).takeWhile p = cs ∧ (cs ++ rest).dropWhile p = rest := by
  have ends : rest.takeWhile p = [] ∧ rest.dropWhile p = rest := by
    cases rest with
    | nil => exact ⟨rfl, rfl⟩
    | cons c rest =>
      have hc := hrest c rfl
      simp only [List.takeWhile_cons, List.dropWhile_cons, hc, Bool.false_eq_true, if_false,
        and_self]
  constructor
  · rw [List.takeWhile_append_of_pos hcs, ends.1, List.append_nil]
  · rw [List.dropWhile_append_of_pos hcs, ends.2]

theorem all_takeWhile {p : Char → Bool} {cs : List Char} : ∀ c ∈ cs.takeWhile p, p c = true :=
  fun c hc => List.all_eq_true.mp List.all_takeWhile c hc

/-! ## Keys -/

theorem startsName_of_isQuote {c : Char} (h : IsQuote c) : startsName c = false := by
  rcases h with rfl | rfl
  · exact startsName_eq_false (by decide)
  · exact startsName_eq_false (by decide)

theorem key_of_readKey {cs rest : List Char} {key : String}
    (h : (readKey cs).outcome = .ok (key, rest)) : ∃ k, MemberKey k key ∧ cs = k ++ rest := by
  unfold readKey at h
  cases cs with
  | nil => cases h
  | cons c r =>
    dsimp only at h
    split at h
    · rename_i hquote
      split at h
      · rename_i text left hread
        cases h
        obtain ⟨body, hbody, rfl⟩ := Quotation.quoted_of_read hread
        exact ⟨_, .quoted hquote hbody, by simp only [List.cons_append, List.append_assoc,
          List.nil_append]⟩
      · cases h
      · cases h
    · split at h
      · rename_i hstarts
        cases h
        refine ⟨_, .name hstarts all_takeWhile, ?_⟩
        rw [List.cons_append, List.takeWhile_append_dropWhile]
      · cases h

theorem readKey_of_key {k rest : List Char} {key : String} (h : MemberKey k key)
    (hrest : Stops continuesName rest) : (readKey (k ++ rest)).outcome = .ok (key, rest) := by
  cases h with
  | @quoted quote cs text hq hquoted =>
    have hread := Quotation.read_of_quoted hq hquoted rest
    rw [List.cons_append, List.append_assoc, List.singleton_append]
    unfold readKey
    dsimp only
    rw [if_pos (show quote = '"' ∨ quote = '\'' from hq)]
    split
    · rename_i heq
      rw [hread] at heq
      cases heq
      rfl
    · rename_i heq
      rw [hread] at heq
      cases heq
    · rename_i heq
      rw [hread] at heq
      cases heq
  | @name c cs hc hcs =>
    have hquote : ¬(c = '"' ∨ c = '\'') := by
      intro hq
      rw [startsName_of_isQuote hq] at hc
      cases hc
    obtain ⟨htake, hdrop⟩ := takeWhile_of_stops hcs hrest
    rw [List.cons_append]
    unfold readKey
    dsimp only
    rw [if_neg hquote, if_pos hc]
    simp only [Reading.outcome, htake, hdrop]

/-! ## Numbers and words -/

theorem stops_dropWhile (p : Char → Bool) (cs : List Char) : Stops p (cs.dropWhile p) := by
  intro c hc
  have := List.head?_dropWhile_not p cs
  rw [hc] at this
  exact this

/-- All of a number token is read, and it must say something. -/
theorem readUnsigned_iff {start cs rest : List Char} {negative : Bool} {d : Document} :
    (readUnsigned start negative cs).outcome = .ok (d, rest) ↔
      ∃ c run, cs = c :: (run ++ rest) ∧ startsNumber c = true ∧
        (∀ x ∈ run, continuesNumber x = true) ∧ Stops continuesNumber rest ∧
        numberValue? negative (c :: run) = .ok (some d) := by
  constructor
  · intro h
    unfold readUnsigned at h
    cases cs with
    | nil => cases h
    | cons c r =>
      dsimp only at h
      split at h
      · rename_i hc
        split at h
        · rename_i value hvalue
          cases h
          refine ⟨c, r.takeWhile continuesNumber, ?_, hc, all_takeWhile, stops_dropWhile _ _,
            hvalue⟩
          rw [List.takeWhile_append_dropWhile]
        · cases h
        · cases h
      · cases h
  · rintro ⟨c, run, rfl, hc, hrun, hrest, hvalue⟩
    obtain ⟨htake, hdrop⟩ := takeWhile_of_stops hrun hrest
    unfold readUnsigned
    dsimp only
    rw [if_pos hc]
    simp only [htake, hvalue, Reading.outcome, hdrop]

theorem outcome_longer {c : Char} {cs : List Char} {r : Reading cs Document} :
    (r.andThen fun d rest h => (.done d rest (Nat.lt_succ_of_lt h) :
      Reading (c :: cs) Document)).outcome = r.outcome := by
  cases r <;> rfl

theorem readNumber_minus (r : List Char) :
    (readNumber ('-' :: r)).outcome = (readUnsigned ('-' :: r) true r).outcome := outcome_longer

theorem readNumber_plus (r : List Char) :
    (readNumber ('+' :: r)).outcome = (readUnsigned ('+' :: r) false r).outcome := outcome_longer

theorem readNumber_of_ne {c : Char} (h : c ≠ '-' ∧ c ≠ '+') (r : List Char) :
    readNumber (c :: r) = readUnsigned (c :: r) false (c :: r) := by
  rw [readNumber]
  · intro r' heq
    exact h.1 (List.cons.inj heq).1
  · intro r' heq
    exact h.2 (List.cons.inj heq).1

theorem ne_sign_of_startsNumber {c : Char} (h : startsNumber c = true) : c ≠ '-' ∧ c ≠ '+' := by
  constructor
  · rintro rfl
    revert h
    decide
  · rintro rfl
    revert h
    decide

/-- A number is read with the sign in front of it. -/
theorem readNumber_iff {cs rest : List Char} {d : Document} :
    (readNumber cs).outcome = .ok (d, rest) ↔
      ∃ sign negative c run, Sign sign negative ∧ cs = sign ++ c :: (run ++ rest) ∧
        startsNumber c = true ∧ (∀ x ∈ run, continuesNumber x = true) ∧
        Stops continuesNumber rest ∧ numberValue? negative (c :: run) = .ok (some d) := by
  constructor
  · intro h
    unfold readNumber at h
    split at h
    · rw [outcome_longer] at h
      obtain ⟨c, run, rfl, hnumber⟩ := readUnsigned_iff.mp h
      exact ⟨['-'], true, c, run, .minus, rfl, hnumber⟩
    · rw [outcome_longer] at h
      obtain ⟨c, run, rfl, hnumber⟩ := readUnsigned_iff.mp h
      exact ⟨['+'], false, c, run, .plus, rfl, hnumber⟩
    · obtain ⟨c, run, rfl, hnumber⟩ := readUnsigned_iff.mp h
      exact ⟨[], false, c, run, .none, rfl, hnumber⟩
  · rintro ⟨sign, negative, c, run, hsign, rfl, hnumber⟩
    have unsigned (start : List Char) :
        (readUnsigned start negative (c :: (run ++ rest))).outcome = .ok (d, rest) :=
      readUnsigned_iff.mpr ⟨c, run, rfl, hnumber⟩
    cases hsign with
    | none =>
      rw [List.nil_append, readNumber_of_ne (ne_sign_of_startsNumber hnumber.1)]
      exact unsigned _
    | plus =>
      rw [List.singleton_append, readNumber_plus]
      exact unsigned _
    | minus =>
      rw [List.singleton_append, readNumber_minus]
      exact unsigned _

/-- What is read where no bracket and no quote begins a value is a word or a number. -/
theorem value_of_readWord {cs rest : List Char} {d : Document}
    (h : (readWord cs).outcome = .ok (d, rest)) : ∃ v, Value v d ∧ cs = v ++ rest := by
  unfold readWord at h
  split at h
  · cases h
    exact ⟨_, .true, rfl⟩
  · cases h
    exact ⟨_, .false, rfl⟩
  · cases h
    exact ⟨_, .null, rfl⟩
  · obtain ⟨sign, negative, c, run, hsign, rfl, hc, hrun, _, hvalue⟩ := readNumber_iff.mp h
    refine ⟨sign ++ c :: run, .number hsign hc hrun hvalue, ?_⟩
    rw [List.append_assoc, List.cons_append]

theorem readWord_of_ne {c : Char} (h : c ∉ ['t', 'f', 'n']) (r : List Char) :
    readWord (c :: r) = readNumber (c :: r) := by
  simp only [List.mem_cons, List.not_mem_nil, or_false, not_or] at h
  obtain ⟨htrue, hfalse, hnull⟩ := h
  rw [readWord]
  · intro r' heq
    exact htrue (List.cons.inj heq).1
  · intro r' heq
    exact hfalse (List.cons.inj heq).1
  · intro r' heq
    exact hnull (List.cons.inj heq).1

/-! ## Texts -/

/-- A text is read up to the quote that closes it. -/
theorem readText_iff {quote : Char} {cs rest : List Char} {d : Document} (hq : IsQuote quote) :
    (readText quote cs).outcome = .ok (d, rest) ↔
      ∃ body text, Quoted quote body text ∧ cs = body ++ quote :: rest ∧
        d = .text (String.ofList text) := by
  unfold readText
  constructor
  · intro h
    split at h
    · rename_i text left hread
      cases h
      obtain ⟨body, hbody, hcs⟩ := Quotation.quoted_of_read hread
      exact ⟨body, text, hbody, hcs, rfl⟩
    · cases h
    · cases h
  · rintro ⟨body, text, hbody, rfl, rfl⟩
    have hread := Quotation.read_of_quoted hq hbody rest
    split
    · rename_i heq
      rw [hread] at heq
      cases heq
      rfl
    · rename_i heq
      rw [hread] at heq
      cases heq
    · rename_i heq
      rw [hread] at heq
      cases heq

end Dealer
