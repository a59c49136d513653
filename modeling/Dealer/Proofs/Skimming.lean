-- What the skimmer passes over. Filler, texts in quotes and all other tokens of a
-- script text hold no bracket that counts: behind them the skimmer goes on as if it
-- had begun there.
import Dealer.Document.Nesting
import Dealer.Proofs.Tokens

namespace Dealer

open Grammar

variable {limit depth : Nat}

/-! ## Characters in code -/

/-- The characters that the skimmer looks at outside quotes and comments. -/
def skimmed : List Char := ['"', '\'', '/', '[', ']', '\x7b', '\x7d']

theorem separates_of_mem_skimmed {c : Char} (h : c ∈ skimmed) : Separates c := by
  simp only [skimmed, List.mem_cons, List.not_mem_nil, or_false] at h
  rcases h with rfl | rfl | rfl | rfl | rfl | rfl | rfl <;> decide

theorem nestsWithin_quote {quote : Char} (h : IsQuote quote) (cs : List Char) :
    nestsWithin limit .code depth (quote :: cs) = nestsWithin limit (.quoted quote) depth cs := by
  rcases h with rfl | rfl <;> rfl

theorem nestsWithin_plain {c : Char} (h : c ∉ skimmed) (cs : List Char) :
    nestsWithin limit .code depth (c :: cs) = nestsWithin limit .code depth cs := by
  simp only [skimmed, List.mem_cons, List.not_mem_nil, or_false, not_or] at h
  rw [nestsWithin_of_ne_slash h.2.2.1]
  simp only [h, decide_false, Bool.or_self, Bool.false_eq_true, if_false]

/-- A run of characters that mean nothing to the skimmer. -/
theorem nestsWithin_run (run : List Char) (h : ∀ c ∈ run, c ∉ skimmed) (rest : List Char) :
    nestsWithin limit .code depth (run ++ rest) = nestsWithin limit .code depth rest := by
  induction run with
  | nil => rfl
  | cons c run ih =>
    rw [List.cons_append, nestsWithin_plain (h c (List.mem_cons_self ..))]
    exact ih fun x hx => h x (List.mem_cons_of_mem _ hx)

theorem not_skimmed_of_isBlank {c : Char} (h : isBlank c = true) : c ∉ skimmed := by
  intro hc
  simp only [skimmed, List.mem_cons, List.not_mem_nil, or_false] at hc
  rcases hc with rfl | rfl | rfl | rfl | rfl | rfl | rfl <;> revert h <;> decide

/-! ## Filler -/

/-- A comment of one line is left where the line ends. The skimmer takes the line feed with it. -/
theorem nestsWithin_line {r rest : List Char} (h : atLineEnd r = some rest) :
    nestsWithin limit .line depth r = nestsWithin limit .code depth rest := by
  fun_induction atLineEnd r with
  | case1 => cases h; rfl
  | case2 cs => cases h; rfl
  | case3 cs => cases h; rfl
  | case4 => cases h
  | case5 c cs hfeed _ _ ih =>
    rw [nestsWithin, if_neg hfeed]
    exact ih h

/-- A star before a character that is no slash is forgotten. -/
theorem nestsWithin_star {cs : List Char} (h : ∀ r, cs ≠ '/' :: r) :
    nestsWithin limit (.block true) depth cs = nestsWithin limit (.block false) depth cs := by
  cases cs with
  | nil => rfl
  | cons c cs =>
    have hc : c ≠ '/' := fun heq => h cs (heq ▸ rfl)
    rw [nestsWithin, nestsWithin, decide_eq_false hc, Bool.and_false, Bool.and_false]

/-- A comment between slashes and stars is left behind the first star and slash. -/
theorem nestsWithin_block {r rest : List Char} (h : afterBlock r = some rest) :
    nestsWithin limit (.block false) depth r = nestsWithin limit .code depth rest := by
  fun_induction afterBlock r with
  | case1 => cases h
  | case2 cs => cases h; rfl
  | case3 c cs hnot ih =>
    rw [nestsWithin, Bool.false_and, if_neg Bool.false_ne_true]
    by_cases hc : c = '*'
    · rw [decide_eq_true hc, nestsWithin_star fun r hr => hnot r hc hr]
      exact ih h
    · rw [decide_eq_false hc]
      exact ih h

/-- The skimmer passes over filler. It begins no comment where the reader sees none, unless nothing
is read behind it. -/
theorem nestsWithin_skipFiller (cs : List Char) :
    nestsWithin limit .code depth (skipFiller cs) = nestsWithin limit .code depth cs := by
  fun_induction skipFiller cs with
  | case1 => rfl
  | case2 r rest h ih =>
    rw [ih, nestsWithin, nestsWithin_line h]
  | case3 => rfl
  | case4 r rest h ih =>
    rw [ih, nestsWithin, nestsWithin_block h]
  | case5 => rfl
  | case6 c r _ _ hblank ih =>
    rw [ih, nestsWithin_plain (not_skimmed_of_isBlank hblank)]
  | case7 => rfl

/-! ## Texts in quotes -/

theorem nestsWithin_quoted {quote c : Char} (h : c ≠ quote ∧ c ≠ '\\') (cs : List Char) :
    nestsWithin limit (.quoted quote) depth (c :: cs) =
      nestsWithin limit (.quoted quote) depth cs := by
  rw [nestsWithin, if_neg h.2, if_neg h.1]

theorem ne_of_hexValue? {c d : Char} {i : Nat} (h : hexValue? c = some i)
    (hd : hexValue? d = none) : c ≠ d := by
  rintro rfl
  rw [h] at hd
  cases hd

/-- Behind a backslash the skimmer passes over one character. What else belongs to the escape is
neither a quote nor a backslash. -/
theorem nestsWithin_escaped {quote : Char} (hq : IsQuote quote) {cs out : List Char}
    (h : Escaped cs out) (rest : List Char) :
    nestsWithin limit (.escaped quote) depth (cs ++ rest) =
      nestsWithin limit (.quoted quote) depth rest := by
  cases h with
  | named h => rfl
  | self hname hu hbreak => rfl
  | @code a b c d ch i j k l ha hb hc hd h =>
    have passes {x : Char} {n : Nat} (hx : hexValue? x = some n) : x ≠ quote ∧ x ≠ '\\' := by
      refine ⟨ne_of_hexValue? hx ?_, ne_of_hexValue? hx (by decide)⟩
      rcases hq with rfl | rfl <;> decide
    simp only [List.cons_append, List.nil_append]
    rw [nestsWithin, nestsWithin_quoted (passes ha), nestsWithin_quoted (passes hb),
      nestsWithin_quoted (passes hc), nestsWithin_quoted (passes hd)]
  | lineBreak h =>
    simp only [lineBreaks, List.mem_cons, List.not_mem_nil, or_false] at h
    rcases h with rfl | rfl | rfl | rfl | rfl
    · rfl
    · rfl
    · -- The carriage return is the escaped character, and the line feed stands in the text.
      simp only [List.cons_append, List.nil_append]
      rw [nestsWithin, nestsWithin_quoted ⟨hq.ne_mark.2.1.symm, by decide⟩]
    · rfl
    · rfl

/-- The skimmer leaves a text where the quote closes it. -/
theorem nestsWithin_text {quote : Char} (hq : IsQuote quote) {body text : List Char}
    (h : Quoted quote body text) (rest : List Char) :
    nestsWithin limit (.quoted quote) depth (body ++ quote :: rest) =
      nestsWithin limit .code depth rest := by
  induction h with
  | nil =>
    rw [List.nil_append, nestsWithin, if_neg hq.ne_mark.1, if_pos rfl]
  | plain hplain _ ih =>
    simp only [List.mem_cons, List.not_mem_nil, or_false, not_or] at hplain
    rw [List.cons_append, nestsWithin_quoted ⟨hplain.1, hplain.2.1⟩, ih]
  | escape hescaped _ ih =>
    rw [List.cons_append, List.append_assoc, nestsWithin, if_pos rfl,
      nestsWithin_escaped hq hescaped, ih]

/-! ## Tokens -/

/-- A token behind which the skimmer goes on as if it had begun there. -/
def Passed (cs rest : List Char) : Prop :=
  ∀ limit depth, nestsWithin limit .code depth cs = nestsWithin limit .code depth rest

/-- A run of a class that no separating character belongs to is passed over. -/
theorem passed_run {p : Char → Bool} (hp : ∀ {c}, Separates c → p c = false) {run : List Char}
    (h : ∀ c ∈ run, p c = true) (rest : List Char) : Passed (run ++ rest) rest := by
  refine fun limit depth => nestsWithin_run _ (fun c hc hmem => ?_) rest
  have := hp (separates_of_mem_skimmed hmem)
  rw [h c hc] at this
  cases this

theorem Passed.cons {c : Char} {cs rest : List Char} (hc : c ∉ skimmed) (h : Passed cs rest) :
    Passed (c :: cs) rest := by
  intro limit depth
  rw [nestsWithin_plain hc, h]

theorem Passed.quoted {quote : Char} (hq : IsQuote quote) {body text : List Char}
    (h : Quoted quote body text) (rest : List Char) :
    Passed (quote :: (body ++ quote :: rest)) rest := by
  intro limit depth
  rw [nestsWithin_quote hq, nestsWithin_text hq h]

theorem passed_of_readKey {cs rest : List Char} {key : String}
    (h : (readKey cs).outcome = .ok (key, rest)) : Passed cs rest := by
  obtain ⟨k, hk, rfl⟩ := key_of_readKey h
  cases hk with
  | @quoted quote body text hq hbody =>
    rw [List.cons_append, List.append_assoc, List.singleton_append]
    exact Passed.quoted hq hbody rest
  | @name c run hc hrun =>
    refine Passed.cons (fun hmem => ?_) (passed_run continuesName_eq_false hrun rest)
    rw [startsName_eq_false (separates_of_mem_skimmed hmem)] at hc
    cases hc

theorem passed_of_readMark {mark : Char} {cs rest : List Char} (hmark : mark ∉ skimmed)
    (h : (readMark mark cs).outcome = .ok ((), rest)) : Passed cs rest := by
  intro limit depth
  rw [← nestsWithin_skipFiller, readMark_outcome.mp h, nestsWithin_plain hmark]

theorem passed_of_readText {quote : Char} {cs rest : List Char} {d : Document}
    (hq : IsQuote quote) (h : (readText quote cs).outcome = .ok (d, rest)) :
    Passed (quote :: cs) rest := by
  obtain ⟨body, text, hbody, rfl, _⟩ := (readText_iff hq).mp h
  exact Passed.quoted hq hbody rest

/-- A digit or a point goes on with a number as well. -/
theorem continuesNumber_of_startsNumber {c : Char} (h : startsNumber c = true) :
    continuesNumber c = true := by
  rcases Bool.or_eq_true_iff.mp h with h | h
  · unfold continuesNumber isAsciiAlphanumeric
    rw [h, Bool.true_or, Bool.true_or, Bool.true_or, Bool.true_or]
  · unfold continuesNumber
    rw [h, Bool.or_true, Bool.true_or, Bool.true_or]

/-- A number is passed over with the sign in front of it. -/
theorem passed_number {sign run : List Char} {negative : Bool} {c : Char}
    (hsign : Sign sign negative) (hc : startsNumber c = true)
    (hrun : ∀ x ∈ run, continuesNumber x = true) (rest : List Char) :
    Passed (sign ++ c :: run ++ rest) rest := by
  have hsigns : ∀ x ∈ sign, continuesNumber x = true := by
    cases hsign with
    | none => exact fun x hx => by cases hx
    | plus => exact fun x hx => List.mem_singleton.mp hx ▸ by decide
    | minus => exact fun x hx => List.mem_singleton.mp hx ▸ by decide
  refine passed_run continuesNumber_eq_false (fun x hx => ?_) rest
  rcases List.mem_append.mp hx with hx | hx
  · exact hsigns x hx
  · rcases List.mem_cons.mp hx with rfl | hx
    · exact continuesNumber_of_startsNumber hc
    · exact hrun x hx

theorem passed_of_readNumber {cs rest : List Char} {d : Document}
    (h : (readNumber cs).outcome = .ok (d, rest)) : Passed cs rest := by
  obtain ⟨sign, negative, c, run, hsign, rfl, hc, hrun, _⟩ := readNumber_iff.mp h
  have := passed_number hsign hc hrun rest
  rwa [List.append_assoc, List.cons_append] at this

theorem passed_of_readWord {cs rest : List Char} {d : Document}
    (h : (readWord cs).outcome = .ok (d, rest)) : Passed cs rest := by
  unfold readWord at h
  split at h
  · cases h
    exact fun limit depth => nestsWithin_run ['t', 'r', 'u', 'e'] (by simp [skimmed]) rest
  · cases h
    exact fun limit depth => nestsWithin_run ['f', 'a', 'l', 's', 'e'] (by simp [skimmed]) rest
  · cases h
    exact fun limit depth => nestsWithin_run ['n', 'u', 'l', 'l'] (by simp [skimmed]) rest
  · exact passed_of_readNumber h

end Dealer
