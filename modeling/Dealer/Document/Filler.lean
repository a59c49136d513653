-- Filler: the blanks and comments between the tokens of a script text.
import Dealer.Text.Letter

namespace Dealer

/-- The rest of a text from the end of the line on. A line ends before a line feed, before a
carriage return with a line feed, or with the text. A carriage return alone is no end of a
line, and a line that runs into one has none. -/
def atLineEnd : List Char → Option (List Char)
  | [] => some []
  | '\n' :: cs => some ('\n' :: cs)
  | '\r' :: '\n' :: cs => some ('\r' :: '\n' :: cs)
  | '\r' :: _ => none
  | _ :: cs => atLineEnd cs

/-- The rest of a text after the first star and slash. -/
def afterBlock : List Char → Option (List Char)
  | [] => none
  | '*' :: '/' :: cs => some cs
  | _ :: cs => afterBlock cs

theorem length_atLineEnd {cs rest : List Char} (h : atLineEnd cs = some rest) :
    rest.length ≤ cs.length := by
  fun_induction atLineEnd cs with
  | case1 => simp_all
  | case2 => simp_all
  | case3 => simp_all
  | case4 => simp at h
  | case5 c cs _ _ _ ih => exact Nat.le_succ_of_le (ih h)

theorem length_afterBlock {cs rest : List Char} (h : afterBlock cs = some rest) :
    rest.length ≤ cs.length := by
  fun_induction afterBlock cs with
  | case1 => simp at h
  | case2 => simp_all; omega
  | case3 c cs _ ih => exact Nat.le_succ_of_le (ih h)

/-- Passes over blanks, comments to the end of the line and comments between `/*` and the
next `*/`. What only begins like a comment is left to read. -/
def skipFiller (cs : List Char) : List Char :=
  match cs with
  | [] => []
  | '/' :: '/' :: r =>
    match _h : atLineEnd r with
    | some rest => skipFiller rest
    | none => '/' :: '/' :: r
  | '/' :: '*' :: r =>
    match _h : afterBlock r with
    | some rest => skipFiller rest
    | none => '/' :: '*' :: r
  | c :: r => if isBlank c then skipFiller r else c :: r
termination_by cs.length
decreasing_by
  · have := length_atLineEnd _h; simp only [List.length_cons]; omega
  · have := length_afterBlock _h; simp only [List.length_cons]; omega
  · simp only [List.length_cons]; omega

theorem length_skipFiller (cs : List Char) : (skipFiller cs).length ≤ cs.length := by
  fun_induction skipFiller cs with
  | case1 => simp
  | case2 r rest h ih => have := length_atLineEnd h; simp only [List.length_cons]; omega
  | case3 => simp
  | case4 r rest h ih => have := length_afterBlock h; simp only [List.length_cons]; omega
  | case5 => simp
  | case6 c r _ _ _ ih => simp only [List.length_cons]; omega
  | case7 => simp

end Dealer
