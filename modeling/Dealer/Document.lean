-- Documents: what a script text holds before anything is known of its shape.
import Dealer.ByName
import Dealer.Decimal.Layout

namespace Dealer

/-- A document. A number is whole or a double, as it was written. The members of an object
stand in the order of their keys. -/
inductive Document
  | null
  | bool (b : Bool)
  | int (n : Int)
  | float (x : Float)
  | text (s : String)
  | list (items : List Document)
  | object (members : List (String × Document))
  deriving Inhabited

namespace Document

/-- The object with these members. Of two members with one key the later counts. -/
def ofMembers (members : List (String × Document)) : Document :=
  .object (ByName.putAll [] members)

/-! ## The text of a document -/

/-- A character inside a text: the quote, the backslash and the controls are escaped. -/
def escapeChar (c : Char) : List Char :=
  if c = '"' || c = '\\' then ['\\', c]
  else if c = '\n' then ['\\', 'n']
  else if c = '\r' then ['\\', 'r']
  else if c = '\t' then ['\\', 't']
  else if c = '\x08' then ['\\', 'b']
  else if c = '\x0c' then ['\\', 'f']
  else if c.toNat < 0x20 then
    let digits := Nat.toDigits 16 c.toNat
    "\\u".toList ++ List.replicate (4 - digits.length) '0' ++ digits
  else [c]

/-- A text between quotes. -/
def escapeText (s : String) : List Char := '"' :: s.toList.flatMap escapeChar ++ ['"']

mutual

/-- The shortest text of a document: no blanks, and numbers in the compact layout. -/
def chars : Document → List Char
  | .null => "null".toList
  | .bool b => (if b then "true" else "false").toList
  | .int n => (toString n).toList
  | .float x => (NumberLayout.compact.write x).toList
  | .text s => escapeText s
  | .list items => '[' :: itemChars items ++ [']']
  | .object members => '\x7b' :: memberChars members ++ ['\x7d']

def itemChars : List Document → List Char
  | [] => []
  | [d] => chars d
  | d :: ds => chars d ++ ',' :: itemChars ds

def memberChars : List (String × Document) → List Char
  | [] => []
  | [(k, d)] => escapeText k ++ ':' :: chars d
  | (k, d) :: rest => escapeText k ++ ':' :: chars d ++ ',' :: memberChars rest

end

/-- The document on one line. -/
def line (d : Document) : String := String.ofList d.chars

end Document
end Dealer
