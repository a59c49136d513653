-- Texts between quotes in a script, with their escapes.
import Dealer.Text.Letter

namespace Dealer

/-! ## Escapes -/

/-- The value of a digit to the base sixteen. -/
def hexValue? (c : Char) : Option Nat :=
  if '0' ≤ c ∧ c ≤ '9' then some (c.toNat - '0'.toNat)
  else if 'a' ≤ c ∧ c ≤ 'f' then some (c.toNat - 'a'.toNat + 10)
  else if 'A' ≤ c ∧ c ≤ 'F' then some (c.toNat - 'A'.toNat + 10)
  else none

/-- The value of a run of digits to the base sixteen. -/
def hexNumber? (digits : List Char) : Option Nat :=
  digits.foldlM (fun n c => (16 * n + ·) <$> hexValue? c) 0

/-- The character with this code point. The surrogates are no characters. -/
def charAt? (code : Nat) : Option Char :=
  if h : code.isValidChar then some (Char.ofNatAux code h) else none

/-- What a single character after a backslash stands for. A character without a meaning of its
own stands for itself. -/
def escapedChar (c : Char) : Char :=
  match c with
  | 'n' => '\n'
  | 't' => '\t'
  | 'r' => '\r'
  | 'b' => '\x08'
  | 'f' => '\x0c'
  | 'v' => '\x0b'
  | '0' => '\x00'
  | c => c

/-- What comes after a backslash: a character or a line break that is passed over. The
rest of the text is behind it. -/
inductive Escape
  | char (c : Char) (rest : List Char)
  | lineBreak (rest : List Char)
  /-- Four digits of a character are missing. The rest starts where they should. -/
  | broken (rest : List Char)
  | cutOff

/-- Reads what comes after a backslash. -/
def Escape.read : List Char → Escape
  | [] => .cutOff
  | 'u' :: cs =>
    match cs with
    | a :: b :: c :: d :: rest =>
      match hexNumber? [a, b, c, d] >>= charAt? with
      | some ch => .char ch rest
      | none => .broken cs
    | _ => .broken cs
  | '\r' :: '\n' :: cs => .lineBreak cs
  | c :: cs =>
    if c = '\r' || c = '\n' || c = '\u2028' || c = '\u2029' then .lineBreak cs
    else .char (escapedChar c) cs

theorem Escape.length_of_char {cs rest : List Char} {c : Char}
    (h : Escape.read cs = .char c rest) : rest.length < cs.length := by
  unfold Escape.read at h
  split at h
  · simp at h
  · split at h
    · split at h
      · simp only [Escape.char.injEq] at h
        rw [← h.2]
        simp only [List.length_cons]
        omega
      · simp at h
    · simp at h
  · simp at h
  · split at h
    · simp at h
    · simp only [Escape.char.injEq] at h; simp [← h.2]

theorem Escape.length_of_lineBreak {cs rest : List Char}
    (h : Escape.read cs = .lineBreak rest) : rest.length < cs.length := by
  unfold Escape.read at h
  split at h
  · simp at h
  · split at h
    · split at h <;> simp at h
    · simp at h
  · simp only [Escape.lineBreak.injEq] at h
    rw [← h]
    exact Nat.lt_succ_of_lt (Nat.lt_succ_self _)
  · split at h
    · simp only [Escape.lineBreak.injEq] at h; simp [← h]
    · simp at h

/-! ## Quotations -/

/-- The outcome of reading a text up to its closing quote. -/
inductive Quotation
  | closed (text : List Char) (rest : List Char)
  /-- A bare line break, or an escape without its digits. The rest starts behind the character
  that breaks the text off. -/
  | broken (rest : List Char)
  /-- No closing quote before the end. -/
  | cutOff

/-- Puts a character in front of a text that was read. -/
def Quotation.cons (c : Char) : Quotation → Quotation
  | .closed text rest => .closed (c :: text) rest
  | .broken rest => .broken rest
  | .cutOff => .cutOff

/-- Reads a text up to the quote that closes it. -/
def Quotation.read (quote : Char) (cs : List Char) : Quotation :=
  match cs with
  | [] => .cutOff
  | c :: r =>
    if c = quote then .closed [] r
    else if c = '\\' then
      match _h : Escape.read r with
      | .char e rest => (Quotation.read quote rest).cons e
      | .lineBreak rest => Quotation.read quote rest
      | .broken rest => .broken rest
      | .cutOff => .cutOff
    else if c = '\n' || c = '\r' then .broken r
    else (Quotation.read quote r).cons c
termination_by cs.length
decreasing_by
  · have := Escape.length_of_char _h; simp only [List.length_cons]; omega
  · have := Escape.length_of_lineBreak _h; simp only [List.length_cons]; omega
  · simp only [List.length_cons]; omega

theorem Quotation.cons_eq_closed {q : Quotation} {c : Char} {text rest : List Char}
    (h : q.cons c = .closed text rest) : ∃ tail, q = .closed tail rest ∧ text = c :: tail := by
  cases q <;> simp_all [Quotation.cons]

/-- A closed text leaves less than there was. -/
theorem Quotation.length_of_closed {quote : Char} {cs text rest : List Char}
    (h : Quotation.read quote cs = .closed text rest) : rest.length < cs.length := by
  fun_induction Quotation.read quote cs generalizing text with
  | case1 => simp at h
  | case2 => simp only [Quotation.closed.injEq] at h; simp [← h.2]
  | case3 r e tail he _ ih =>
    obtain ⟨_, hq, _⟩ := Quotation.cons_eq_closed h
    have := ih hq
    have := Escape.length_of_char he
    simp only [List.length_cons]; omega
  | case4 r tail he _ ih =>
    have := ih h
    have := Escape.length_of_lineBreak he
    simp only [List.length_cons]; omega
  | case5 => simp at h
  | case6 => simp at h
  | case7 => simp at h
  | case8 c r _ _ _ ih =>
    obtain ⟨_, hq, _⟩ := Quotation.cons_eq_closed h
    have := ih hq
    simp only [List.length_cons]; omega

end Dealer
