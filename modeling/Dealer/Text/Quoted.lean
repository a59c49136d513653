-- Texts quoted for a message: between quotes, with a backslash before what would
-- not show as itself.
import Dealer.Text.Letter

namespace Dealer

/-- The digits of a number to the base sixteen, in lower case and without leading zeros. -/
def hexDigits (n : Nat) : List Char := Nat.toDigits 16 n

/-- A character as a quoted text shows it. A character that attaches to its neighbour or has
no glyph shows as its code point. -/
def quotedChar (c : Char) : List Char :=
  if c = '\x00' then ['\\', '0']
  else if c = '\t' then ['\\', 't']
  else if c = '\r' then ['\\', 'r']
  else if c = '\n' then ['\\', 'n']
  else if c = '\\' || c = '"' then ['\\', c]
  else if isShown c then [c]
  else "\\u".toList ++ '\x7b' :: hexDigits c.toNat ++ ['\x7d']

/-- A text between quotes, as a message shows it. -/
def quoted (s : String) : String :=
  String.ofList ('"' :: s.toList.flatMap quotedChar ++ ['"'])

end Dealer
