-- Labels in their normal form. A normal form normalizes to itself, and it is known
-- by its blanks: none at an end, none beside another one, and each of them a space.
-- Two such labels with a separator between them keep the form where the separator fits.
import Dealer.Text.Label
import Mathlib.Data.List.Chain

namespace Dealer

/-! ## Where the blanks are -/

/-- After a blank comes no other one. -/
def Apart (c d : Char) : Prop := isBlank c = true → isBlank d = false

/-- Every blank of a text is a space, and none stands beside another one. -/
structure Spaced (cs : List Char) : Prop where
  space : ∀ c ∈ cs, isBlank c = true → c = ' '
  apart : cs.IsChain Apart

/-- A text is spaced and has no blank at its ends. -/
structure Neat (cs : List Char) : Prop extends Spaced cs where
  front : ∀ c ∈ cs.head?, isBlank c = false
  back : ∀ c ∈ cs.getLast?, isBlank c = false

/-- A separator fits between two texts: it is spaced, and where it begins or ends with a blank there
is a text on that side. -/
structure Fits (separator a b : List Char) : Prop where
  spaced : Spaced separator
  front : a = [] → ∀ c ∈ separator.head?, isBlank c = false
  back : b = [] → ∀ c ∈ separator.getLast?, isBlank c = false

theorem mem_head?_append_iff {c : Char} {a b : List Char} :
    c ∈ (a ++ b).head? ↔ c ∈ a.head? ∨ a = [] ∧ c ∈ b.head? := by
  cases a <;> simp

theorem mem_getLast?_append_iff {c : Char} {a b : List Char} :
    c ∈ (a ++ b).getLast? ↔ c ∈ b.getLast? ∨ b = [] ∧ c ∈ a.getLast? := by
  rw [List.getLast?_append]
  cases hb : b.getLast? with
  | none => simp [List.getLast?_eq_none_iff.mp hb]
  | some d =>
    have hne : b ≠ [] := fun hnil => by simp [hnil] at hb
    simp [hne]

theorem spaced_append_iff {a b : List Char} :
    Spaced (a ++ b) ↔ Spaced a ∧ Spaced b ∧ ∀ c ∈ a.getLast?, ∀ d ∈ b.head?, Apart c d := by
  constructor
  · rintro ⟨space, apart⟩
    obtain ⟨first, second, between⟩ := List.isChain_append.mp apart
    exact ⟨⟨fun c hc => space c (List.mem_append_left _ hc), first⟩,
      ⟨fun c hc => space c (List.mem_append_right _ hc), second⟩, between⟩
  · rintro ⟨ha, hb, between⟩
    refine ⟨fun c hc => ?_, List.isChain_append.mpr ⟨ha.apart, hb.apart, between⟩⟩
    rcases List.mem_append.mp hc with hc | hc
    · exact ha.space c hc
    · exact hb.space c hc

/-- Texts that are neat are so with a separator between them exactly where it fits. -/
theorem neat_append_iff {a b separator : List Char} (ha : Neat a) (hb : Neat b) :
    Neat (a ++ separator ++ b) ↔ Fits separator a b := by
  constructor
  · intro h
    obtain ⟨left, -, -⟩ := spaced_append_iff.mp h.toSpaced
    obtain ⟨-, spaced, -⟩ := spaced_append_iff.mp left
    refine ⟨spaced, fun hnil c hc => h.front c ?_, fun hnil c hc => h.back c ?_⟩
    · exact mem_head?_append_iff.mpr (Or.inl (mem_head?_append_iff.mpr (Or.inr ⟨hnil, hc⟩)))
    · exact mem_getLast?_append_iff.mpr
        (Or.inr ⟨hnil, mem_getLast?_append_iff.mpr (Or.inl hc)⟩)
  · intro h
    constructor
    case toSpaced =>
      -- No blank of the separator has a blank beside it, since the texts have none at their ends.
      have left : Spaced (a ++ separator) := spaced_append_iff.mpr
        ⟨ha.toSpaced, h.spaced, fun c hc d _ hblank => by simp [ha.back c hc] at hblank⟩
      exact spaced_append_iff.mpr ⟨left, hb.toSpaced, fun _ _ d hd _ => hb.front d hd⟩
    case front =>
      intro c hc
      rcases mem_head?_append_iff.mp hc with hc | ⟨-, hc⟩
      · rcases mem_head?_append_iff.mp hc with hc | ⟨hnil, hc⟩
        · exact ha.front c hc
        · exact h.front hnil c hc
      · exact hb.front c hc
    case back =>
      intro c hc
      rcases mem_getLast?_append_iff.mp hc with hc | ⟨hnil, hc⟩
      · exact hb.back c hc
      · rcases mem_getLast?_append_iff.mp hc with hc | ⟨-, hc⟩
        · exact h.back hnil c hc
        · exact ha.back c hc

/-! ## Words -/

/-- A word is not empty and has no blanks. -/
def IsWord (w : List Char) : Prop := w ≠ [] ∧ ∀ c ∈ w, isBlank c = false

theorem neat_of_no_blank {cs : List Char} (h : ∀ c ∈ cs, isBlank c = false) : Neat cs := by
  have apart : cs.Pairwise Apart := List.pairwise_of_forall_mem_list fun _ _ d hd _ => h d hd
  exact ⟨⟨fun c hc hblank => by simp [h c hc] at hblank, apart.isChain⟩,
    fun c hc => h c (List.mem_of_mem_head? hc), fun c hc => h c (List.mem_of_mem_getLast? hc)⟩

theorem leadingWord_blank {c : Char} (hc : isBlank c = true) (cs : List Char) :
    leadingWord (c :: cs) = ([], words cs) := by
  rw [leadingWord]
  exact if_pos hc

theorem leadingWord_plain {c : Char} (hc : isBlank c = false) (cs : List Char) :
    leadingWord (c :: cs) = (c :: (leadingWord cs).1, (leadingWord cs).2) := by
  rw [leadingWord]
  exact if_neg (by simp [hc])

theorem words_plain {c : Char} (hc : isBlank c = false) (cs : List Char) :
    words (c :: cs) = (leadingWord (c :: cs)).1 :: (leadingWord (c :: cs)).2 := by
  unfold words
  rw [leadingWord_plain hc]
  rfl

theorem words_blank {c : Char} (hc : isBlank c = true) (cs : List Char) :
    words (c :: cs) = words cs := by
  unfold words
  rw [leadingWord_blank hc]
  rfl

/-- The word at the front may be empty, and no other one is. -/
theorem isWord_of_mem_words (cs : List Char) :
    (∀ w ∈ words cs, IsWord w) ∧ (∀ c ∈ (leadingWord cs).1, isBlank c = false) ∧
      ∀ w ∈ (leadingWord cs).2, IsWord w := by
  induction cs with
  | nil => simp [words, leadingWord]
  | cons c cs ih =>
    obtain ⟨all, first, others⟩ := ih
    by_cases hc : isBlank c = true
    · rw [words_blank hc, leadingWord_blank hc]
      exact ⟨all, by simp, all⟩
    · rw [Bool.not_eq_true] at hc
      rw [words_plain hc, leadingWord_plain hc]
      have plain : ∀ d ∈ c :: (leadingWord cs).1, isBlank d = false :=
        List.forall_mem_cons.mpr ⟨hc, first⟩
      exact ⟨List.forall_mem_cons.mpr ⟨⟨List.cons_ne_nil _ _, plain⟩, others⟩, plain, others⟩

/-- A space fits between two words. -/
theorem neat_joinWords : ∀ {ws : List (List Char)}, (∀ w ∈ ws, IsWord w) →
    Neat (joinWords ws) ∧ (ws ≠ [] → joinWords ws ≠ [])
  | [], _ => ⟨neat_of_no_blank (by simp [joinWords]), fun h => absurd rfl h⟩
  | [w], h => by
    obtain ⟨hne, hplain⟩ := h w List.mem_cons_self
    exact ⟨neat_of_no_blank hplain, fun _ => hne⟩
  | w :: v :: ws, h => by
    obtain ⟨hw, hws⟩ := List.forall_mem_cons.mp h
    obtain ⟨neat, hne⟩ := neat_joinWords hws
    have fits : Fits [' '] w (joinWords (v :: ws)) := by
      refine ⟨⟨by simp, by simp⟩, fun hnil => absurd hnil hw.1, fun hnil => absurd hnil (hne ?_)⟩
      exact List.cons_ne_nil v ws
    have joined : joinWords (w :: v :: ws) = w ++ [' '] ++ joinWords (v :: ws) := by
      rw [joinWords, List.append_assoc]
      · rfl
      · simp
    rw [joined]
    exact ⟨(neat_append_iff (neat_of_no_blank hw.2) neat).mpr fits, by simp⟩

theorem joinWords_cons (w : List Char) (ws : List (List Char)) :
    joinWords (w :: ws) = w ++ ws.flatMap fun v => ' ' :: v := by
  induction ws generalizing w with
  | nil => simp [joinWords]
  | cons v ws ih =>
    rw [joinWords, ih, List.flatMap_cons, List.cons_append]
    simp

/-- The word at the front of a spaced text and each other word behind a space are the text. -/
theorem leadingWord_of_spaced {cs : List Char} (h : Spaced cs)
    (hback : ∀ c ∈ cs.getLast?, isBlank c = false) :
    (leadingWord cs).1 ++ (leadingWord cs).2.flatMap (fun w => ' ' :: w) = cs := by
  induction cs with
  | nil => rfl
  | cons c cs ih =>
    obtain ⟨-, rest, between⟩ := (spaced_append_iff (a := [c])).mp h
    have ih := ih rest fun d hd =>
      hback d (mem_getLast?_append_iff (a := [c]).mpr (Or.inl hd))
    by_cases hc : isBlank c = true
    · -- The text goes on, and with a word.
      cases cs with
      | nil => simp [hback c rfl] at hc
      | cons d cs =>
        have hd : isBlank d = false := between c rfl d rfl hc
        rw [leadingWord_blank hc, words_plain hd, List.flatMap_cons, List.cons_append, ih,
          List.nil_append, h.space c List.mem_cons_self hc]
    · rw [Bool.not_eq_true] at hc
      rw [leadingWord_plain hc, List.cons_append, ih]

/-! ## Normal forms -/

theorem neat_normalize (s : String) : Neat (normalize s).toList := by
  rw [normalize, String.toList_ofList]
  exact (neat_joinWords (isWord_of_mem_words s.toList).1).1

/-- A label is its normal form where its text is neat. -/
theorem normalize_eq_self_iff (s : String) : normalize s = s ↔ Neat s.toList := by
  constructor
  · intro h
    rw [← h]
    exact neat_normalize s
  · intro h
    have same : joinWords (words s.toList) = s.toList := by
      cases hcs : s.toList with
      | nil => rfl
      | cons c cs =>
        rw [hcs] at h
        rw [words_plain (h.front c rfl), joinWords_cons]
        exact leadingWord_of_spaced h.toSpaced h.back
    rw [normalize, same, String.ofList_toList]

theorem normalize_normalize (s : String) : normalize (normalize s) = normalize s :=
  (normalize_eq_self_iff _).mpr (neat_normalize s)

end Dealer
