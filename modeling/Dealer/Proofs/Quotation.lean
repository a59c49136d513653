-- Texts in quotes are read as the grammar has them: up to the quote that closes
-- them, with every escape replaced by what it stands for.
import Dealer.Proofs.Grammar

namespace Dealer

open Grammar

/-! ## Escapes -/

theorem charAt?_eq_some {code : Nat} {ch : Char} : charAt? code = some ch ↔ ch.toNat = code := by
  constructor
  · intro h
    by_cases hvalid : code.isValidChar
    · have hcode : charAt? code = some (Char.ofNatAux code hvalid) := dif_pos hvalid
      cases hcode.symm.trans h
      rfl
    · have hcode : charAt? code = none := dif_neg hvalid
      cases hcode.symm.trans h
  · rintro rfl
    have hvalid : ch.toNat.isValidChar := ch.valid
    have hcode : charAt? ch.toNat = some (Char.ofNatAux ch.toNat hvalid) := dif_pos hvalid
    exact hcode.trans (congrArg some (Char.ext rfl))

/-- Four digits give a character when it is the one with their value as its code point. -/
theorem fourDigits_iff {a b c d ch : Char} :
    hexNumber? [a, b, c, d] >>= charAt? = some ch ↔
      ∃ i j k l, hexValue? a = some i ∧ hexValue? b = some j ∧ hexValue? c = some k ∧
        hexValue? d = some l ∧ ch.toNat = 16 * (16 * (16 * i + j) + k) + l := by
  unfold hexNumber?
  simp only [List.foldlM_cons, List.foldlM_nil, Option.map_eq_map, Option.bind_eq_bind,
    Option.pure_def]
  constructor
  · intro h
    cases ha : hexValue? a with
    | none => rw [ha] at h; cases h
    | some i =>
      cases hb : hexValue? b with
      | none => rw [ha, hb] at h; cases h
      | some j =>
        cases hc : hexValue? c with
        | none => rw [ha, hb, hc] at h; cases h
        | some k =>
          cases hd : hexValue? d with
          | none => rw [ha, hb, hc, hd] at h; cases h
          | some l =>
            rw [ha, hb, hc, hd] at h
            have hch : ch.toNat = 16 * (16 * (16 * (16 * 0 + i) + j) + k) + l :=
              charAt?_eq_some.mp h
            exact ⟨i, j, k, l, rfl, rfl, rfl, rfl, by omega⟩
  · rintro ⟨i, j, k, l, ha, hb, hc, hd, h⟩
    rw [ha, hb, hc, hd]
    have hch : ch.toNat = 16 * (16 * (16 * (16 * 0 + i) + j) + k) + l := by omega
    exact charAt?_eq_some.mpr hch

/-- A character names another one, or stands for itself. -/
theorem escapedChar_cases (c : Char) :
    (c, escapedChar c) ∈ escapeNames ∨ (c ∉ escapeNames.map Prod.fst ∧ escapedChar c = c) := by
  by_cases h : c ∈ escapeNames.map Prod.fst
  · left
    simp only [escapeNames, List.map_cons, List.map_nil, List.mem_cons, List.not_mem_nil,
      or_false] at h
    rcases h with rfl | rfl | rfl | rfl | rfl | rfl | rfl <;> decide
  · right
    refine ⟨h, ?_⟩
    simp only [escapeNames, List.map_cons, List.map_nil, List.mem_cons, List.not_mem_nil,
      or_false, not_or] at h
    unfold escapedChar
    split <;> simp_all

/-- The single characters that break a line. -/
theorem mem_lineBreaks_iff {c : Char} :
    [c] ∈ lineBreaks ↔ (c = '\r' || c = '\n' || c = '\u2028' || c = '\u2029') = true := by
  simp only [lineBreaks, List.mem_cons, List.cons.injEq, and_true, List.not_mem_nil, or_false,
    Bool.or_eq_true, decide_eq_true_eq, reduceCtorEq, and_false, false_or]
  constructor
  · rintro (h | h | h | h)
    · exact Or.inl (Or.inl (Or.inr h))
    · exact Or.inl (Or.inl (Or.inl h))
    · exact Or.inl (Or.inr h)
    · exact Or.inr h
  · rintro (((h | h) | h) | h)
    · exact Or.inr (Or.inl h)
    · exact Or.inl h
    · exact Or.inr (Or.inr (Or.inl h))
    · exact Or.inr (Or.inr (Or.inr h))

/-- The characters that an escape stands for, and the rest behind it. -/
def Escape.gives : Escape → Option (List Char × List Char)
  | .char c rest => some ([c], rest)
  | .lineBreak rest => some ([], rest)
  | .broken _ => none
  | .cutOff => none

/-- What is read behind a backslash is an escape of the grammar. -/
theorem Escape.escaped_of_read {cs out rest : List Char}
    (h : (Escape.read cs).gives = some (out, rest)) : ∃ e, Escaped e out ∧ cs = e ++ rest := by
  unfold Escape.read at h
  split at h
  · cases h
  · split at h
    · rename_i a b c d r
      cases hch : hexNumber? [a, b, c, d] >>= charAt? with
      | none => rw [hch] at h; cases h
      | some ch =>
        rw [hch] at h
        cases h
        obtain ⟨i, j, k, l, ha, hb, hc, hd, hsum⟩ := fourDigits_iff.mp hch
        exact ⟨['u', a, b, c, d], .code ha hb hc hd hsum, rfl⟩
    · cases h
  · cases h
    exact ⟨['\r', '\n'], .lineBreak (by decide), rfl⟩
  · rename_i c r hu hboth
    split at h
    · rename_i hbreak
      cases h
      exact ⟨[c], .lineBreak (mem_lineBreaks_iff.mpr hbreak), rfl⟩
    · rename_i hbreak
      cases h
      refine ⟨[c], ?_, rfl⟩
      rcases escapedChar_cases c with hnamed | ⟨hname, hself⟩
      · exact .named hnamed
      · rw [hself]
        exact .self hname hu fun hmem => hbreak (mem_lineBreaks_iff.mp hmem)

theorem escapedChar_of_mem {c d : Char} (h : (c, d) ∈ escapeNames) :
    c ≠ 'u' ∧ [c] ∉ lineBreaks ∧ escapedChar c = d := by
  simp only [escapeNames, List.mem_cons, Prod.mk.injEq, List.not_mem_nil, or_false] at h
  rcases h with ⟨rfl, rfl⟩ | ⟨rfl, rfl⟩ | ⟨rfl, rfl⟩ | ⟨rfl, rfl⟩ | ⟨rfl, rfl⟩ | ⟨rfl, rfl⟩ |
    ⟨rfl, rfl⟩ <;> decide

/-- A character that begins no longer escape is read alone. -/
theorem Escape.read_single {c : Char} {rest : List Char} (hu : c ≠ 'u')
    (hboth : c = '\r' → ∀ r, rest ≠ '\n' :: r) :
    Escape.read (c :: rest) =
      if [c] ∈ lineBreaks then .lineBreak rest else .char (escapedChar c) rest := by
  rw [Escape.read]
  · by_cases hbreak : [c] ∈ lineBreaks
    · rw [if_pos hbreak, if_pos (mem_lineBreaks_iff.mp hbreak)]
    · rw [if_neg hbreak, if_neg fun h => hbreak (mem_lineBreaks_iff.mpr h)]
  · exact hu
  · exact fun r hc hr => hboth hc r hr

/-- An escape of the grammar is read to its end, where a carriage return does not take the line
feed of another escape. -/
theorem Escape.read_of_escaped {e out rest : List Char} (h : Escaped e out)
    (hfeed : ∀ r, rest ≠ '\n' :: r) : (Escape.read (e ++ rest)).gives = some (out, rest) := by
  have single {c : Char} (hu : c ≠ 'u') : Escape.read (c :: rest) =
      if [c] ∈ lineBreaks then .lineBreak rest else .char (escapedChar c) rest :=
    Escape.read_single hu fun _ => hfeed
  cases h with
  | named h =>
    obtain ⟨hu, hbreak, hchar⟩ := escapedChar_of_mem h
    rw [List.singleton_append, single hu, if_neg hbreak, hchar]
    rfl
  | code ha hb hc hd hsum =>
    have hch := fourDigits_iff.mpr ⟨_, _, _, _, ha, hb, hc, hd, hsum⟩
    simp only [List.cons_append, List.nil_append]
    rw [Escape.read, hch]
    rfl
  | lineBreak h =>
    have hmem := h
    simp only [lineBreaks, List.mem_cons, List.not_mem_nil, or_false] at h
    rcases h with rfl | rfl | rfl | rfl | rfl
    · rw [List.singleton_append, single (by decide), if_pos hmem]
      rfl
    · rw [List.singleton_append, single (by decide), if_pos hmem]
      rfl
    · rfl
    · rw [List.singleton_append, single (by decide), if_pos hmem]
      rfl
    · rw [List.singleton_append, single (by decide), if_pos hmem]
      rfl
  | @self c hname hu hbreak =>
    rw [List.singleton_append, single hu, if_neg hbreak]
    rcases escapedChar_cases c with hnamed | ⟨_, hself⟩
    · exact absurd (List.mem_map_of_mem hnamed) hname
    · rw [hself]
      rfl

/-! ## Between the quotes -/

theorem Grammar.IsQuote.ne_mark {quote : Char} (h : IsQuote quote) :
    quote ≠ '\\' ∧ quote ≠ '\n' ∧ quote ≠ '\r' := by
  rcases h with rfl | rfl <;> decide

namespace Quotation

theorem read_quote (quote : Char) (rest : List Char) :
    Quotation.read quote (quote :: rest) = .closed [] rest := by
  rw [Quotation.read, if_pos rfl]

theorem read_plain {quote c : Char} {cs : List Char} (h : c ∉ [quote, '\\', '\n', '\r']) :
    Quotation.read quote (c :: cs) = (Quotation.read quote cs).cons c := by
  simp only [List.mem_cons, List.not_mem_nil, or_false, not_or] at h
  obtain ⟨hquote, hback, hfeed, hreturn⟩ := h
  rw [Quotation.read, if_neg hquote, if_neg hback, decide_eq_false hfeed, decide_eq_false hreturn]
  rfl

theorem read_escape {quote : Char} {cs out rest : List Char} (hq : IsQuote quote)
    (h : (Escape.read cs).gives = some (out, rest)) :
    Quotation.read quote ('\\' :: cs) =
      match Quotation.read quote rest with
      | .closed text r => .closed (out ++ text) r
      | other => other := by
  rw [Quotation.read, if_neg hq.ne_mark.1.symm, if_pos rfl]
  split
  · rename_i heq
    rw [heq] at h
    cases h
    cases Quotation.read quote rest <;> rfl
  · rename_i heq
    rw [heq] at h
    cases h
    cases Quotation.read quote rest <;> rfl
  · rename_i heq
    rw [heq] at h
    cases h
  · rename_i heq
    rw [heq] at h
    cases h

/-- What is read up to the closing quote is a quoted text of the grammar. -/
theorem quoted_of_read {quote : Char} {cs text rest : List Char}
    (h : Quotation.read quote cs = .closed text rest) :
    ∃ body, Quoted quote body text ∧ cs = body ++ quote :: rest := by
  fun_induction Quotation.read quote cs generalizing text with
  | case1 => cases h
  | case2 r => cases h; exact ⟨[], .nil, rfl⟩
  | case3 r e tail he _ ih =>
    obtain ⟨more, hmore, rfl⟩ := Quotation.cons_eq_closed h
    obtain ⟨body, hbody, htail⟩ := ih hmore
    have hgives : (Escape.read r).gives = some ([e], tail) := by rw [he]; rfl
    obtain ⟨es, hes, hr⟩ := Escape.escaped_of_read hgives
    refine ⟨'\\' :: (es ++ body), .escape hes hbody, ?_⟩
    rw [hr, htail, List.cons_append, List.append_assoc]
  | case4 r tail he _ ih =>
    obtain ⟨body, hbody, htail⟩ := ih h
    have hgives : (Escape.read r).gives = some ([], tail) := by rw [he]; rfl
    obtain ⟨es, hes, hr⟩ := Escape.escaped_of_read hgives
    refine ⟨'\\' :: (es ++ body), .escape hes hbody, ?_⟩
    rw [hr, htail, List.cons_append, List.append_assoc]
  | case5 => cases h
  | case6 => cases h
  | case7 => cases h
  | case8 c r hquote hback hbreak ih =>
    obtain ⟨more, hmore, rfl⟩ := Quotation.cons_eq_closed h
    obtain ⟨body, hbody, hr⟩ := ih hmore
    have hplain : c ∉ [quote, '\\', '\n', '\r'] := by
      simp only [Bool.or_eq_true, decide_eq_true_eq, not_or] at hbreak
      simp only [List.mem_cons, List.not_mem_nil, or_false, not_or]
      exact ⟨hquote, hback, hbreak⟩
    exact ⟨c :: body, .plain hplain hbody, by rw [hr, List.cons_append]⟩

/-- No quoted text begins with a bare line feed. -/
theorem ne_feed_of_quoted {quote : Char} {body text : List Char} (hq : IsQuote quote)
    (h : Quoted quote body text) (rest r : List Char) : body ++ quote :: rest ≠ '\n' :: r := by
  intro heq
  cases h with
  | nil => exact hq.ne_mark.2.1 (List.cons.inj heq).1
  | plain hplain _ =>
    rw [(List.cons.inj heq).1] at hplain
    simp at hplain
  | escape _ _ => cases (List.cons.inj heq).1

/-- A quoted text of the grammar is read up to the quote that closes it. -/
theorem read_of_quoted {quote : Char} {body text : List Char} (hq : IsQuote quote)
    (h : Quoted quote body text) (rest : List Char) :
    Quotation.read quote (body ++ quote :: rest) = .closed text rest := by
  induction h with
  | nil => exact read_quote quote rest
  | plain hplain _ ih =>
    rw [List.cons_append, read_plain hplain, ih]
    rfl
  | escape hescaped hmore ih =>
    have hgives := Escape.read_of_escaped hescaped (ne_feed_of_quoted hq hmore rest)
    rw [List.cons_append, List.append_assoc, read_escape hq hgives, ih]

end Quotation

end Dealer
