-- What a script's author is told when a text cannot be read: the line, a caret
-- below the failing place, and what was hoped for there.
import Dealer.Document.Nesting
import Dealer.Document.Reader

namespace Dealer

/-- What a message calls a hope. -/
def Hope.text : Hope → String
  | .number => "finite number"
  | .value => "value"
  | .key => "key"
  | .mark c => "`" ++ String.singleton c ++ "`"

/-- Why a text is no document. -/
inductive SyntaxError
  | tooDeep
  /-- The text, and where and how reading it failed. -/
  | unreadable (text : List Char) (failure : Failure)
  deriving DecidableEq, Repr

namespace SyntaxError

/-- The number of bytes of a text in UTF-8. -/
def byteCount (cs : List Char) : Nat := cs.foldl (fun n c => n + c.utf8Size) 0

def spaces (n : Nat) : List Char := List.replicate n ' '

/-- The last line of a text, as far as it goes. -/
def lastLine (cs : List Char) : List Char := (cs.reverse.takeWhile (· ≠ '\n')).reverse

/-- A text of one line, with a caret below the failing place. The caret stands as far to the right
as the text before that place has bytes. -/
def caretBelow (text before : List Char) : List Char :=
  text ++ '\n' :: spaces (byteCount before) ++ ['^', '\n']

/-- The line that holds the failing place, with its number. Columns count characters, except that
they count bytes where the failing character is not ASCII. The end of a text counts as the column
after its last character, even if that is a line feed. -/
def lineWithCaret (before rest : List Char) : List Char :=
  let before' := if rest = [] then before.dropLast else before
  let after := if rest = [] then before.drop before'.length else rest
  let start := lastLine before'
  let column :=
    match rest with
    | [] => start.length + 1
    | c :: _ => if c.toNat < 128 then start.length else byteCount start
  let number := (toString (before'.count '\n' + 1)).toList
  let gutter := spaces number.length
  "parse error at line ".toList ++ number ++ ", column ".toList ++ (toString (column + 1)).toList
    ++ '\n' :: gutter ++ " |\n".toList
    ++ number ++ " | ".toList ++ start ++ after.takeWhile (· ≠ '\n')
    ++ '\n' :: gutter ++ " | ".toList ++ spaces column ++ ['^', '\n']

/-- The message for a text that cannot be read. -/
def message : SyntaxError → String
  | .tooDeep => "nesting deeper than " ++ toString maxNesting ++ " levels"
  | .unreadable text failure =>
    let before := text.take (text.length - failure.rest.length)
    let place := if '\n' ∈ text then lineWithCaret before failure.rest else caretBelow text before
    let hopes :=
      if failure.hopes = [] then ""
      else "expected " ++ ", ".intercalate (failure.hopes.map Hope.text)
    String.ofList place ++ hopes

end SyntaxError

namespace Document

/-- Reads a text into a document. The nesting of its brackets is checked first. -/
def read (text : String) : Except (Halt SyntaxError) Document :=
  if nestsWithin maxNesting .code 0 text.toList then
    (readDocument text.toList).mapError (Halt.map (.unreadable text.toList))
  else .error (.failed .tooDeep)

end Document
end Dealer
