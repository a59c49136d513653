-- Letters and numbers are no blanks, and neither are they marks of a script text,
-- so names and numbers end in front of those. A set of characters holds no more
-- than the ranges that it is made from, so this is seen on the ranges of the charts.
import Dealer.Document.Reader

namespace Dealer

namespace CharSet

/-! ## What the ranges hold -/

/-- One of some ranges holds a code point. -/
def Covers (ranges : List (Nat × Nat)) (n : Nat) : Prop := ∃ r ∈ ranges, r.1 ≤ n ∧ n ≤ r.2

theorem covers_of_inRanges {ranges : List (Nat × Nat)} {n : Nat} (h : inRanges ranges n = true) :
    Covers ranges n := by
  induction ranges with
  | nil => cases h
  | cons r rest ih =>
    obtain ⟨first, last⟩ := r
    unfold inRanges at h
    split at h
    · cases h
    · rename_i hfirst
      rcases Bool.or_eq_true_iff.mp h with hlast | hrest
      · exact ⟨_, List.mem_cons_self .., Nat.le_of_not_lt hfirst, of_decide_eq_true hlast⟩
      · obtain ⟨q, hq, hn⟩ := ih hrest
        exact ⟨q, List.mem_cons_of_mem _ hq, hn⟩

theorem covers_of_joinRanges {r : Nat × Nat} {rest : List (Nat × Nat)} {n : Nat}
    (h : Covers (joinRanges r rest) n) : Covers (r :: rest) n := by
  induction rest generalizing r with
  | nil => exact h
  | cons q rest ih =>
    obtain ⟨a, b⟩ := r
    obtain ⟨c, d⟩ := q
    unfold joinRanges at h
    split at h
    · rename_i htouch
      obtain ⟨p, hp, hn⟩ := ih h
      rcases List.mem_cons.mp hp with rfl | hp
      · by_cases hb : n ≤ b
        · exact ⟨_, List.mem_cons_self .., hn.1, hb⟩
        · refine ⟨(c, d), List.mem_cons_of_mem _ (List.mem_cons_self ..), ?_, ?_⟩
          · dsimp only
            omega
          · dsimp only at hn ⊢
            omega
      · exact ⟨p, List.mem_cons_of_mem _ (List.mem_cons_of_mem _ hp), hn⟩
    · obtain ⟨p, hp, hn⟩ := h
      rcases List.mem_cons.mp hp with rfl | hp
      · exact ⟨_, List.mem_cons_self .., hn⟩
      · obtain ⟨p', hp', hn'⟩ := ih ⟨p, hp, hn⟩
        exact ⟨p', List.mem_cons_of_mem _ hp', hn'⟩

theorem covers_of_ofSorted {ranges : List (Nat × Nat)} {n : Nat}
    (h : Covers (ofSorted ranges).ranges n) : Covers ranges n := by
  cases ranges with
  | nil => exact h
  | cons r rest => exact covers_of_joinRanges h

/-! ## Sets that have nothing in common -/

/-- Some ranges hold no code point that others hold. -/
def Apart (ranges others : List (Nat × Nat)) : Prop := ∀ n, Covers ranges n → ¬Covers others n

variable {others : List (Nat × Nat)}

/-- Whether each of some ranges ends before each of the others begins, or begins behind its end. -/
def endApart (ranges others : List (Nat × Nat)) : Bool :=
  ranges.all fun r => others.all fun q => Nat.blt r.2 q.1 || Nat.blt q.2 r.1

theorem apart_of_ranges {ranges : List (Nat × Nat)} (h : endApart ranges others = true) :
    Apart ranges others := by
  rintro n ⟨r, hr, hr₁, hr₂⟩ ⟨q, hq, hq₁, hq₂⟩
  have := List.all_eq_true.mp (List.all_eq_true.mp h r hr) q hq
  rcases Bool.or_eq_true_iff.mp this with hlt | hlt
  · have := Nat.blt_eq.mp hlt
    omega
  · have := Nat.blt_eq.mp hlt
    omega

theorem apart_ofRuns {ranges alternating : List (Nat × Nat)}
    (h : endApart (ranges ++ alternating.flatMap everySecond) others = true) :
    Apart (ofRuns ranges alternating).ranges others := by
  intro n hn
  obtain ⟨r, hr, hrn⟩ := covers_of_ofSorted hn
  exact apart_of_ranges h n ⟨r, List.mem_mergeSort.mp hr, hrn⟩

theorem apart_union {s t : CharSet} (hs : Apart s.ranges others) (ht : Apart t.ranges others) :
    Apart (s.union t).ranges others := by
  intro n hn
  obtain ⟨r, hr, hrn⟩ := covers_of_ofSorted hn
  rcases List.mem_merge.mp hr with hr | hr
  · exact hs n ⟨r, hr, hrn⟩
  · exact ht n ⟨r, hr, hrn⟩

theorem apart_unions {sets : List CharSet} (h : ∀ s ∈ sets, Apart s.ranges others) :
    Apart (unions sets).ranges others := by
  have go (s : CharSet) (hs : Apart s.ranges others) :
      Apart (sets.foldl union s).ranges others := by
    induction sets generalizing s with
    | nil => exact hs
    | cons t sets ih =>
      refine ih (fun s hs => h s (List.mem_cons_of_mem _ hs)) _ ?_
      exact apart_union hs (h t (List.mem_cons_self ..))
  refine go empty ?_
  rintro n ⟨r, hr, _⟩
  cases hr

theorem has_eq_false_of_apart {s : CharSet} {c : Char} (h : Apart s.ranges others)
    (hc : Covers others c.toNat) : s.has c = false := by
  cases hs : s.has c with
  | false => rfl
  | true => exact absurd hc (h _ (covers_of_inRanges hs))

end CharSet

/-! ## Letters and numbers -/

open CharSet

/-- The marks that no name and no number goes on with. -/
def marks : List Char := ['"', '\'', '/', ':', ',', '[', ']', '\x7b', '\x7d']

/-- A blank or a mark: tokens end in front of it. -/
def Separates (c : Char) : Prop := isBlank c = true ∨ c ∈ marks

instance (c : Char) : Decidable (Separates c) := inferInstanceAs (Decidable (_ ∨ _))

/-- The code points of the blanks and marks. -/
def separating : List (Nat × Nat) :=
  Property.whiteSpace.ranges ++ marks.map fun c => (c.toNat, c.toNat)

theorem separating_covers {c : Char} (h : Separates c) : Covers separating c.toNat := by
  rcases h with h | h
  · obtain ⟨r, hr, hn⟩ := covers_of_inRanges h
    exact ⟨r, List.mem_append_left _ hr, hn⟩
  · exact ⟨_, List.mem_append_right _ (List.mem_map_of_mem h), Nat.le_refl _, Nat.le_refl _⟩

theorem letters_apart : Apart scriptLetters.ranges separating := by
  have cased : Apart Category.casedLetter.ranges separating := by
    refine apart_unions fun s hs => ?_
    simp only [List.mem_cons, List.not_mem_nil, or_false] at hs
    rcases hs with rfl | rfl | rfl
    · exact apart_ofRuns (by decide +kernel)
    · exact apart_ofRuns (by decide +kernel)
    · exact apart_of_ranges (by decide +kernel)
  have letter : Apart Category.letter.ranges separating := by
    refine apart_unions fun s hs => ?_
    simp only [List.mem_cons, List.not_mem_nil, or_false] at hs
    rcases hs with rfl | rfl | rfl
    · exact cased
    · exact apart_of_ranges (by decide +kernel)
    · exact apart_of_ranges (by decide +kernel)
  refine apart_union (apart_unions fun s hs => ?_) (apart_of_ranges (by decide +kernel))
  simp only [List.mem_cons, List.not_mem_nil, or_false] at hs
  rcases hs with rfl | rfl | rfl
  · exact letter
  · exact apart_of_ranges (by decide +kernel)
  · exact apart_of_ranges (by decide +kernel)

theorem lettersAndNumbers_apart : Apart scriptLettersAndNumbers.ranges separating := by
  have number : Apart Category.number.ranges separating := by
    refine apart_unions fun s hs => ?_
    simp only [List.mem_cons, List.not_mem_nil, or_false] at hs
    rcases hs with rfl | rfl | rfl <;> exact apart_of_ranges (by decide +kernel)
  refine apart_unions fun s hs => ?_
  simp only [List.mem_cons, List.not_mem_nil, or_false] at hs
  rcases hs with rfl | rfl | rfl
  · exact letters_apart
  · exact number
  · exact apart_of_ranges (by decide +kernel)

/-! ## Where tokens end -/

theorem ne_of_separates {c : Char} (h : Separates c) : c ≠ '_' ∧ c ≠ '$' := by
  constructor
  · rintro rfl
    revert h
    decide
  · rintro rfl
    revert h
    decide

/-- No name begins with a blank or a mark. -/
theorem startsName_eq_false {c : Char} (h : Separates c) : startsName c = false := by
  obtain ⟨hlow, hdollar⟩ := ne_of_separates h
  have hletter : isLetter c = false := has_eq_false_of_apart letters_apart (separating_covers h)
  unfold startsName
  rw [hletter, decide_eq_false hlow, decide_eq_false hdollar]
  rfl

/-- No name goes on with a blank or a mark. -/
theorem continuesName_eq_false {c : Char} (h : Separates c) : continuesName c = false := by
  obtain ⟨hlow, hdollar⟩ := ne_of_separates h
  have hletter : isLetterOrNumber c = false :=
    has_eq_false_of_apart lettersAndNumbers_apart (separating_covers h)
  unfold continuesName
  rw [hletter, decide_eq_false hlow, decide_eq_false hdollar]
  rfl

theorem lt_of_continuesNumber {c : Char} (h : continuesNumber c = true) : c.toNat < 128 := by
  have alpha : c.isAlpha = (c.isUpper || c.isLower) := rfl
  have upperCase : c.isUpper = decide ('A'.val ≤ c.val ∧ c.val ≤ 'Z'.val) := rfl
  have lowerCase : c.isLower = (decide ('a'.val ≤ c.val) && decide (c.val ≤ 'z'.val)) := rfl
  simp only [continuesNumber, isAsciiAlphanumeric, Char.isDigit, alpha, upperCase, lowerCase,
    Bool.or_eq_true, Bool.and_eq_true, decide_eq_true_eq, ge_iff_le, UInt32.le_iff_toNat_le] at h
  have upper : c.val.toNat ≤ 'z'.val.toNat → c.toNat < 128 :=
    fun hle => Nat.lt_of_le_of_lt hle (by decide)
  rcases h with (((⟨_, h⟩ | ⟨_, h⟩ | ⟨_, h⟩) | rfl) | rfl) | rfl
  · exact upper (Nat.le_trans h (by decide))
  · exact upper (Nat.le_trans h (by decide))
  · exact upper h
  all_goals decide

/-- No number goes on with a blank or a mark. -/
theorem continuesNumber_eq_false {c : Char} (h : Separates c) : continuesNumber c = false := by
  have apart : ∀ n < 128, Separates (Char.ofNat n) → continuesNumber (Char.ofNat n) = false := by
    decide +kernel
  cases hc : continuesNumber c with
  | false => rfl
  | true =>
    have := apart c.toNat (lt_of_continuesNumber hc)
    rw [Char.ofNat_toNat] at this
    rw [this h] at hc
    exact hc.symm

end Dealer
