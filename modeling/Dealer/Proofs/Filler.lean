-- Passing over filler takes exactly the filler of the grammar. What is passed over
-- is filler, and filler is passed over to its end when a token comes behind it.
import Dealer.Proofs.Classes
import Dealer.Proofs.Grammar

namespace Dealer

open Grammar

/-! ## Comments -/

theorem atLineEnd_cons {c : Char} (h : c ≠ '\n' ∧ c ≠ '\r') (cs : List Char) :
    atLineEnd (c :: cs) = atLineEnd cs := by
  rw [atLineEnd.eq_def]
  split
  · rename_i heq
    cases heq
  · rename_i heq
    exact absurd (List.cons.inj heq).1 h.1
  · rename_i heq
    exact absurd (List.cons.inj heq).1 h.2
  · rename_i heq
    exact absurd (List.cons.inj heq).1 h.2
  · rename_i heq
    rw [(List.cons.inj heq).2]

theorem atLineEnd_of_lineEnd {cs : List Char} (h : LineEnd True cs) : atLineEnd cs = some cs := by
  cases h with
  | feed cs => rfl
  | both cs => rfl
  | text _ => rfl

/-- The line ends behind the longest run without the characters of line breaks, or nowhere. -/
theorem atLineEnd_iff {cs rest : List Char} :
    atLineEnd cs = some rest ↔
      ∃ body, cs = body ++ rest ∧ (∀ c ∈ body, c ≠ '\n' ∧ c ≠ '\r') ∧ LineEnd True rest := by
  constructor
  · intro h
    fun_induction atLineEnd cs with
    | case1 => cases h; exact ⟨[], rfl, fun _ hc => (by cases hc), .text trivial⟩
    | case2 cs => cases h; exact ⟨[], rfl, fun _ hc => (by cases hc), .feed cs⟩
    | case3 cs => cases h; exact ⟨[], rfl, fun _ hc => (by cases hc), .both cs⟩
    | case4 => cases h
    | case5 c cs hfeed _ hreturn ih =>
      obtain ⟨body, hcs, hbody, hend⟩ := ih h
      refine ⟨c :: body, by rw [hcs, List.cons_append], fun x hx => ?_, hend⟩
      rcases List.mem_cons.mp hx with rfl | hx
      · exact ⟨hfeed, hreturn⟩
      · exact hbody x hx
  · rintro ⟨body, rfl, hbody, hend⟩
    induction body with
    | nil => exact atLineEnd_of_lineEnd hend
    | cons c body ih =>
      rw [List.cons_append, atLineEnd_cons (hbody c (List.mem_cons_self ..))]
      exact ih fun x hx => hbody x (List.mem_cons_of_mem _ hx)

theorem afterBlock_cons {c : Char} {cs : List Char} (h : ∀ r, c :: cs ≠ '*' :: '/' :: r) :
    afterBlock (c :: cs) = afterBlock cs := by
  rw [afterBlock.eq_def]
  split
  · rename_i heq
    cases heq
  · rename_i r heq
    exact absurd heq (h r)
  · rename_i heq
    rw [(List.cons.inj heq).2]

/-- A block comment ends with the first star and slash. -/
theorem afterBlock_iff {cs rest : List Char} :
    afterBlock cs = some rest ↔
      ∃ body, cs = body ++ '*' :: '/' :: rest ∧ ¬['*', '/'] <:+: body := by
  constructor
  · intro h
    fun_induction afterBlock cs with
    | case1 => cases h
    | case2 cs =>
      cases h
      exact ⟨[], rfl, by decide⟩
    | case3 c cs hnot ih =>
      obtain ⟨body, hcs, hbody⟩ := ih h
      refine ⟨c :: body, by rw [hcs, List.cons_append], fun hinfix => ?_⟩
      rcases List.infix_cons_iff.mp hinfix with hprefix | hinfix
      · obtain ⟨tail, htail⟩ := hprefix
        obtain ⟨hc, hbody'⟩ := List.cons.inj htail
        refine hnot (tail ++ '*' :: '/' :: rest) hc.symm ?_
        rw [hcs, ← hbody']
        rfl
      · exact hbody hinfix
  · rintro ⟨body, rfl, hbody⟩
    induction body with
    | nil => rfl
    | cons c body ih =>
      rw [List.cons_append, afterBlock_cons]
      · exact ih fun hinfix => hbody (List.infix_cons_iff.mpr (Or.inr hinfix))
      · -- A star and a slash in front would stand in the body, or the star before its end.
        intro r heq
        obtain ⟨hc, hcs⟩ := List.cons.inj heq
        cases body with
        | nil => cases (List.cons.inj hcs).1
        | cons x body =>
          rw [hc, (List.cons.inj hcs).1] at hbody
          exact hbody ⟨[], body, rfl⟩

/-! ## Passing over filler -/

/-- No filler begins here: with no blank, and with no slash. -/
def Plain (cs : List Char) : Prop := ∀ c ∈ cs.head?, isBlank c = false ∧ c ≠ '/'

theorem Plain.nil : Plain [] := fun _ h => by cases h

theorem Plain.cons {c : Char} (h : isBlank c = false ∧ c ≠ '/') (cs : List Char) :
    Plain (c :: cs) := by
  intro x hx
  cases hx
  exact h

theorem skipFiller_line {r rest : List Char} (h : atLineEnd r = some rest) :
    skipFiller ('/' :: '/' :: r) = skipFiller rest := by
  rw [skipFiller]
  split
  · rename_i heq
    rw [h] at heq
    cases heq
    rfl
  · rename_i heq
    rw [h] at heq
    cases heq

theorem skipFiller_block {r rest : List Char} (h : afterBlock r = some rest) :
    skipFiller ('/' :: '*' :: r) = skipFiller rest := by
  rw [skipFiller]
  split
  · rename_i heq
    rw [h] at heq
    cases heq
    rfl
  · rename_i heq
    rw [h] at heq
    cases heq

theorem skipFiller_of_ne_slash {c : Char} (h : c ≠ '/') (r : List Char) :
    skipFiller (c :: r) = if isBlank c then skipFiller r else c :: r := by
  rw [skipFiller]
  · intro r heq _
    exact h heq
  · intro r heq _
    exact h heq

theorem skipFiller_blank {c : Char} (h : isBlank c = true) (r : List Char) :
    skipFiller (c :: r) = skipFiller r := by
  have hc : c ≠ '/' := by
    rintro rfl
    revert h
    decide
  rw [skipFiller_of_ne_slash hc, if_pos h]

theorem skipFiller_plain {cs : List Char} (h : Plain cs) : skipFiller cs = cs := by
  cases cs with
  | nil => rw [skipFiller]
  | cons c r =>
    obtain ⟨hblank, hslash⟩ := h c rfl
    rw [skipFiller_of_ne_slash hslash, hblank]
    rfl

/-- What is left does not begin with a blank. -/
theorem isBlank_of_skipFiller {cs r : List Char} {c : Char} (h : skipFiller cs = c :: r) :
    isBlank c = false := by
  fun_induction skipFiller cs with
  | case1 => cases h
  | case2 _ _ _ ih => exact ih h
  | case3 => cases h; decide
  | case4 _ _ _ ih => exact ih h
  | case5 => cases h; decide
  | case6 _ _ _ _ _ ih => exact ih h
  | case7 c r _ _ hblank =>
    cases h
    exact Bool.eq_false_iff.mpr hblank

/-- A line that ends in front of a rest without a leading blank ends in what stands before the
rest, or with the text. -/
theorem lineEnd_of_append {f rest : List Char} (h : LineEnd True (f ++ rest))
    (hrest : ∀ c r, rest = c :: r → isBlank c = false) : LineEnd (rest = []) f := by
  have blank (c : Char) (r : List Char) (hc : isBlank c = true) : rest ≠ c :: r := by
    intro heq
    rw [hrest c r heq] at hc
    cases hc
  generalize hcs : f ++ rest = cs at h
  cases h with
  | feed r =>
    cases f with
    | nil => exact absurd hcs (blank '\n' r (by decide))
    | cons c f =>
      rw [(List.cons.inj hcs).1]
      exact .feed f
  | both r =>
    cases f with
    | nil => exact absurd hcs (blank '\r' _ (by decide))
    | cons c f =>
      obtain ⟨hc, hcs⟩ := List.cons.inj hcs
      cases f with
      | nil => exact absurd hcs (blank '\n' r (by decide))
      | cons d f =>
        rw [hc, (List.cons.inj hcs).1]
        exact .both f
  | text _ =>
    obtain ⟨hf, hnil⟩ := List.append_eq_nil_iff.mp hcs
    rw [hf]
    exact .text hnil

/-- What is passed over is filler. It may end with the text where nothing is left. -/
theorem filler_of_skipFiller (cs : List Char) :
    ∃ f, Filler (skipFiller cs = []) f ∧ cs = f ++ skipFiller cs := by
  fun_induction skipFiller cs with
  | case1 => exact ⟨[], .none, rfl⟩
  | case2 r rest h ih =>
    obtain ⟨f, hf, hrest⟩ := ih
    obtain ⟨body, hr, hbody, hend⟩ := atLineEnd_iff.mp h
    rw [hrest] at hend
    have hline := lineEnd_of_append hend fun c r hc => isBlank_of_skipFiller hc
    refine ⟨'/' :: '/' :: (body ++ f), .line hbody hline hf, ?_⟩
    rw [List.cons_append, List.cons_append, List.append_assoc, ← hrest, hr]
  | case3 r => exact ⟨[], .none, rfl⟩
  | case4 r rest h ih =>
    obtain ⟨f, hf, hrest⟩ := ih
    obtain ⟨body, hr, hbody⟩ := afterBlock_iff.mp h
    refine ⟨'/' :: '*' :: (body ++ '*' :: '/' :: f), .block hbody hf, ?_⟩
    simp only [List.cons_append, List.append_assoc]
    rw [← hrest, hr]
  | case5 r => exact ⟨[], .none, rfl⟩
  | case6 c r _ _ hblank ih =>
    obtain ⟨f, hf, hr⟩ := ih
    exact ⟨c :: f, .blank hblank hf, by rw [List.cons_append, ← hr]⟩
  | case7 c r => exact ⟨[], .none, rfl⟩

theorem Grammar.LineEnd.mono {last last' : Prop} {cs : List Char} (h : LineEnd last cs)
    (hl : last → last') : LineEnd last' cs := by
  cases h with
  | feed cs => exact .feed cs
  | both cs => exact .both cs
  | text h => exact .text (hl h)

theorem Grammar.Filler.mono {last last' : Prop} {cs : List Char} (h : Filler last cs)
    (hl : last → last') : Filler last' cs := by
  induction h with
  | none => exact .none
  | blank h _ ih => exact .blank h ih
  | block h _ ih => exact .block h ih
  | line h hend _ ih => exact .line h (hend.mono hl) ih

/-- In front of a token stands filler that does not end with the text. -/
theorem filler_of_skipFiller_eq_cons {cs r : List Char} {c : Char} (h : skipFiller cs = c :: r) :
    ∃ f, Filler False f ∧ cs = f ++ c :: r := by
  obtain ⟨f, hf, hcs⟩ := filler_of_skipFiller cs
  rw [h] at hf hcs
  exact ⟨f, hf.mono fun hnil => (by cases hnil), hcs⟩

/-- A text of which nothing is left is filler. -/
theorem filler_of_skipFiller_eq_nil {cs : List Char} (h : skipFiller cs = []) : Filler True cs := by
  obtain ⟨f, hf, hcs⟩ := filler_of_skipFiller cs
  rw [h, List.append_nil] at hcs
  rw [hcs]
  exact hf.mono fun _ => trivial

theorem Grammar.LineEnd.append {last : Prop} {cs rest : List Char} (h : LineEnd last cs)
    (hlast : last → rest = []) : LineEnd True (cs ++ rest) := by
  cases h with
  | feed cs => exact .feed _
  | both cs => exact .both _
  | text h =>
    rw [hlast h]
    exact .text trivial

/-- Filler is passed over to its end. -/
theorem skipFiller_append {last : Prop} {f rest : List Char} (hf : Filler last f)
    (hrest : Plain rest) (hlast : last → rest = []) : skipFiller (f ++ rest) = rest := by
  induction hf with
  | none => exact skipFiller_plain hrest
  | blank h _ ih =>
    rw [List.cons_append, skipFiller_blank h]
    exact ih
  | @block body cs h _ ih =>
    have hafter : afterBlock (body ++ '*' :: '/' :: (cs ++ rest)) = some (cs ++ rest) :=
      afterBlock_iff.mpr ⟨body, rfl, h⟩
    simp only [List.cons_append, List.append_assoc]
    rw [skipFiller_block hafter]
    exact ih
  | @line body cs h hend _ ih =>
    have hat : atLineEnd (body ++ (cs ++ rest)) = some (cs ++ rest) :=
      atLineEnd_iff.mpr ⟨body, rfl, h, hend.append hlast⟩
    simp only [List.cons_append, List.append_assoc]
    rw [skipFiller_line hat]
    exact ih

/-- Filler begins with a blank or a slash, if it begins at all. -/
theorem Grammar.Filler.head {last : Prop} {c : Char} {cs : List Char}
    (h : Filler last (c :: cs)) : isBlank c = true ∨ c = '/' := by
  cases h with
  | blank h _ => exact Or.inl h
  | block _ _ => exact Or.inr rfl
  | line _ _ _ => exact Or.inr rfl

end Dealer
