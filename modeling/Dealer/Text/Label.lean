-- Labels are compared by their words: the blanks around and between the words
-- of a label do not count. A label in its normal form has one space between
-- two words and none at its ends.
import Dealer.Text.Letter

namespace Dealer

/-! ## Words -/

/-- The word at the front of a text, which is empty where a blank comes first, and the
words after it. -/
def leadingWord : List Char → List Char × List (List Char)
  | [] => ([], [])
  | c :: cs =>
    let (word, others) := leadingWord cs
    if isBlank c then ([], if word = [] then others else word :: others)
    else (c :: word, others)

/-- The words of a text: its longest runs of characters that are not blank. -/
def words (cs : List Char) : List (List Char) :=
  let (word, others) := leadingWord cs
  if word = [] then others else word :: others

/-- Words on one line, with a space between two of them. -/
def joinWords : List (List Char) → List Char
  | [] => []
  | [w] => w
  | w :: ws => w ++ ' ' :: joinWords ws

/-! ## Labels -/

/-- The normal form of a label: its words with one space between them. -/
def normalize (label : String) : String := String.ofList (joinWords (words label.toList))

/-- Whether a text has no word at all. -/
def isBlankText (s : String) : Bool := s.toList.all isBlank

/-- Whether the characters `part` stand next to each other somewhere in a text. -/
def occursIn (part : List Char) : List Char → Bool
  | [] => part.isEmpty
  | c :: cs => part.isPrefixOf (c :: cs) || occursIn part cs

end Dealer
