-- Numbers in a script text. A number token is a sign, then everything that
-- could belong to a number. What the token says is worked out afterwards, so
-- that a token that says nothing is refused as a whole.
import Dealer.Decimal.Reading
import Dealer.Document
import Dealer.Document.Quotation
import Dealer.Overflow

namespace Dealer

/-! ## The characters of a token -/

/-- A letter or digit of ASCII. -/
def isAsciiAlphanumeric (c : Char) : Bool := c.isDigit || c.isAlpha

/-- A character that a number token may begin with, after its sign. -/
def startsNumber (c : Char) : Bool := c.isDigit || c = '.'

/-- A character that goes on with a number token. -/
def continuesNumber (c : Char) : Bool :=
  isAsciiAlphanumeric c || c = '.' || c = '+' || c = '-'

/-! ## What a token says -/

/-- The number of 64 bits that digits to the base sixteen stand for. There must be one digit at
least. A sign may stand in front of them. -/
def hexInteger? (cs : List Char) : Option Int :=
  match cs with
  | '-' :: digits => do
    guard (digits ≠ [])
    let n ← hexNumber? digits
    guard (n ≤ maxInt64 + 1)
    return -n
  | '+' :: digits => magnitude? digits
  | digits => magnitude? digits
where
  magnitude? (digits : List Char) : Option Int := do
    guard (digits ≠ [])
    let n ← hexNumber? digits
    guard (n ≤ maxInt64)
    return n

/-- The exponent of a decimal literal, which nothing may follow. Without the letter there is
none, which counts as zero. -/
def exponent? (cs : List Char) : Option Int :=
  match cs with
  | [] => some 0
  | c :: rest =>
    if c = 'e' ∨ c = 'E' then
      match rest with
      | '-' :: digits => (fun n => -(n : Int)) <$> magnitude? digits
      | '+' :: digits => (fun n => (n : Int)) <$> magnitude? digits
      | digits => (fun n => (n : Int)) <$> magnitude? digits
    else none
where
  magnitude? (digits : List Char) : Option Nat :=
    if digits ≠ [] ∧ digits.all Char.isDigit then some (digitsValue digits) else none

/-- The value of a decimal literal: digits with at most one point among or around them, then an
exponent if there is one. There must be one digit at least. -/
def decimalLiteral? (cs : List Char) : Option Decimal :=
  let whole := cs.takeWhile Char.isDigit
  let (fraction, tail) :=
    match cs.dropWhile Char.isDigit with
    | '.' :: r => (r.takeWhile Char.isDigit, r.dropWhile Char.isDigit)
    | r => ([], r)
  if whole = [] ∧ fraction = [] then none
  else do
    let e ← exponent? tail
    return ⟨digitsValue (whole ++ fraction), e - fraction.length⟩

/-- What a number token says, given without its sign. Digits to the base sixteen follow `0x`. Plain
digits that fit into 64 bits are a whole number, and every other literal is a double, which
must be finite. The sign is turned last. -/
def numberValue? (negative : Bool) (token : List Char) : Except Overflow (Option Document) :=
  match token with
  | '0' :: 'x' :: digits => (hexInteger? digits).mapM signed
  | '0' :: 'X' :: digits => (hexInteger? digits).mapM signed
  | _ =>
    if token.all Char.isDigit ∧ token ≠ [] ∧ digitsValue token ≤ maxInt64 then
      some <$> signed (digitsValue token)
    else return do
      let d ← decimalLiteral? token
      let x := d.toFloat
      guard x.isFinite
      return .float (if negative then -x else x)
where
  signed (n : Int) : Except Overflow Document :=
    Document.int <$> if negative then Overflow.negate n else pure n

end Dealer
