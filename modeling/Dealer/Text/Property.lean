-- The properties of characters that Unicode derives from categories and lists.
import Dealer.Text.Chart.Casing
import Dealer.Text.Chart.Emoji
import Dealer.Text.Chart.Ideographs
import Dealer.Text.Chart.Letters
import Dealer.Text.Chart.Marks
import Dealer.Text.Chart.Numbers
import Dealer.Text.Chart.Punctuation
import Dealer.Text.Chart.Separators
import Dealer.Text.Chart.Symbols

namespace Dealer

open CharSet Chart

/-! ## Groups of categories -/

namespace Category

def casedLetter : CharSet := unions [uppercaseLetter, lowercaseLetter, titlecaseLetter]

def letter : CharSet := unions [casedLetter, modifierLetter, otherLetter]

def mark : CharSet := unions [nonspacingMark, spacingMark, enclosingMark]

def number : CharSet := unions [decimalNumber, letterNumber, otherNumber]

def punctuation : CharSet :=
  unions [connectorPunctuation, dashPunctuation, openPunctuation, closePunctuation,
    initialPunctuation, finalPunctuation, otherPunctuation]

def symbol : CharSet := unions [mathSymbol, currencySymbol, modifierSymbol, otherSymbol]

def separator : CharSet := unions [spaceSeparator, lineSeparator, paragraphSeparator]

/-- The code points that are characters. -/
def assigned : CharSet :=
  unions [letter, mark, number, punctuation, symbol, separator, control, format, privateUse]

def unassigned : CharSet := assigned.compl

/-- Controls, formats, code points for private use, and those that are no characters. -/
def other : CharSet := unions [control, format, privateUse, unassigned]

end Category

/-! ## Properties -/

namespace Property

open Category

def whiteSpace : CharSet := ⟨
  [(0x9, 0xD), (0x20, 0x20), (0x85, 0x85), (0xA0, 0xA0), (0x1680, 0x1680), (0x2000, 0x200A),
   (0x2028, 0x2029), (0x202F, 0x202F), (0x205F, 0x205F), (0x3000, 0x3000)]⟩

def joinControl : CharSet := range 0x200C 0x200D

def alphabetic : CharSet := unions [letter, letterNumber, otherAlphabetic]

def uppercase : CharSet := uppercaseLetter.union otherUppercase

def lowercase : CharSet := lowercaseLetter.union otherLowercase

def cased : CharSet := unions [uppercase, lowercase, titlecaseLetter]

/-- Characters between the letters of a word that do not divide it: apostrophes, points and the
like. -/
def caseIgnorablePunctuation : CharSet := ⟨
  [(0x27, 0x27), (0x2E, 0x2E), (0x3A, 0x3A), (0xB7, 0xB7), (0x387, 0x387), (0x55F, 0x55F),
   (0x5F4, 0x5F4), (0x2018, 0x2019), (0x2024, 0x2024), (0x2027, 0x2027), (0xFE13, 0xFE13),
   (0xFE52, 0xFE52), (0xFE55, 0xFE55), (0xFF07, 0xFF07), (0xFF0E, 0xFF0E), (0xFF1A, 0xFF1A)]⟩

def caseIgnorable : CharSet :=
  unions [nonspacingMark, enclosingMark, format, modifierLetter, modifierSymbol,
    caseIgnorablePunctuation]

def changesWhenLowercased : CharSet := (uppercase.union titlecaseLetter).diff withoutLowercase

def changesWhenUppercased : CharSet :=
  (unions [lowercaseLetter, titlecaseLetter, single '\u0345', range 0x2170 0x217F,
    range 0x24D0 0x24E9]).diff withoutUppercase

/-- A letter in upper case changes only where two letters are written as one. The lower case of
Georgian has no title case. -/
def changesWhenTitlecased : CharSet :=
  (changesWhenUppercased.diff
    (unions [titlecaseLetter, range 0x10D0 0x10FA, range 0x10FD 0x10FF])).union
    ⟨[(0x1C4, 0x1C4), (0x1C7, 0x1C7), (0x1CA, 0x1CA), (0x1F1, 0x1F1)]⟩

/-- The upper case of Cherokee stays as it is. -/
def changesWhenCasefolded : CharSet :=
  (changesWhenLowercased.diff (range 0x13A0 0x13F5)).union foldedLowercase

def changesWhenCasemapped : CharSet :=
  unions [changesWhenLowercased, changesWhenUppercased, changesWhenTitlecased]

def math : CharSet := mathSymbol.union otherMath

def dash : CharSet :=
  dashPunctuation.union ⟨[(0x2053, 0x2053), (0x207B, 0x207B), (0x208B, 0x208B), (0x2212, 0x2212)]⟩

def prependedConcatenationMark : CharSet := ⟨
  [(0x600, 0x605), (0x6DD, 0x6DD), (0x70F, 0x70F), (0x890, 0x891), (0x8E2, 0x8E2),
   (0x110BD, 0x110BD), (0x110CD, 0x110CD)]⟩

def variationSelector : CharSet := ⟨
  [(0x180B, 0x180D), (0x180F, 0x180F), (0xFE00, 0xFE0F), (0xE0100, 0xE01EF)]⟩

def otherDefaultIgnorable : CharSet := ⟨
  [(0x34F, 0x34F), (0x115F, 0x1160), (0x17B4, 0x17B5), (0x2065, 0x2065), (0x3164, 0x3164),
   (0xFFA0, 0xFFA0), (0xFFF0, 0xFFF8), (0xE0000, 0xE0000), (0xE0002, 0xE001F),
   (0xE0080, 0xE00FF), (0xE01F0, 0xE0FFF)]⟩

def defaultIgnorable : CharSet :=
  (unions [otherDefaultIgnorable, format, variationSelector]).diff
    (unions [prependedConcatenationMark, range 0xFFF9 0xFFFB, range 0x13430 0x1343F])

def graphemeExtend : CharSet := unions [nonspacingMark, enclosingMark, otherGraphemeExtend]

def graphemeBase : CharSet :=
  assigned.diff
    (unions [control, format, privateUse, lineSeparator, paragraphSeparator, graphemeExtend])

def otherIdStart : CharSet := ⟨
  [(0x1885, 0x1886), (0x2118, 0x2118), (0x212E, 0x212E), (0x309B, 0x309C)]⟩

def idStart : CharSet :=
  (unions [letter, letterNumber, otherIdStart]).diff (single '\u2e2f')

def otherIdContinue : CharSet := ⟨
  [(0xB7, 0xB7), (0x387, 0x387), (0x1369, 0x1371), (0x19DA, 0x19DA), (0x200C, 0x200D),
   (0x30FB, 0x30FB), (0xFF65, 0xFF65)]⟩

def idContinue : CharSet :=
  unions [idStart, nonspacingMark, spacingMark, decimalNumber, connectorPunctuation,
    otherIdContinue]

/-- Characters of names that are no longer such when they are brought to a common form. -/
def unstableInNames : CharSet := ⟨
  [(0x37A, 0x37A), (0x309B, 0x309C), (0xFC5E, 0xFC63), (0xFDFA, 0xFDFB), (0xFE70, 0xFE70),
   (0xFE72, 0xFE72), (0xFE74, 0xFE74), (0xFE76, 0xFE76), (0xFE78, 0xFE78), (0xFE7A, 0xFE7A),
   (0xFE7C, 0xFE7C), (0xFE7E, 0xFE7E)]⟩

def xidStart : CharSet :=
  idStart.diff (unstableInNames.union ⟨[(0xE33, 0xE33), (0xEB3, 0xEB3), (0xFF9E, 0xFF9F)]⟩)

def xidContinue : CharSet := idContinue.diff unstableInNames

def idCompatMathStart : CharSet := ⟨
  [(0x2202, 0x2202), (0x2207, 0x2207), (0x221E, 0x221E), (0x1D6C1, 0x1D6C1), (0x1D6DB, 0x1D6DB),
   (0x1D6FB, 0x1D6FB), (0x1D715, 0x1D715), (0x1D735, 0x1D735), (0x1D74F, 0x1D74F),
   (0x1D76F, 0x1D76F), (0x1D789, 0x1D789), (0x1D7A9, 0x1D7A9), (0x1D7C3, 0x1D7C3)]⟩

def idCompatMathContinue : CharSet :=
  idCompatMathStart.union ⟨
    [(0xB2, 0xB3), (0xB9, 0xB9), (0x2070, 0x2070), (0x2074, 0x207E), (0x2080, 0x208E)]⟩

def asciiHexDigit : CharSet := ⟨[(0x30, 0x39), (0x41, 0x46), (0x61, 0x66)]⟩

def hexDigit : CharSet :=
  asciiHexDigit.union ⟨[(0xFF10, 0xFF19), (0xFF21, 0xFF26), (0xFF41, 0xFF46)]⟩

def bidiControl : CharSet := ⟨
  [(0x61C, 0x61C), (0x200E, 0x200F), (0x202A, 0x202E), (0x2066, 0x2069)]⟩

def deprecated : CharSet := ⟨
  [(0x149, 0x149), (0x673, 0x673), (0xF77, 0xF77), (0xF79, 0xF79), (0x17A3, 0x17A4),
   (0x206A, 0x206F), (0x2329, 0x232A), (0xE0001, 0xE0001)]⟩

def logicalOrderException : CharSet := ⟨
  [(0xE40, 0xE44), (0xEC0, 0xEC4), (0x19B5, 0x19B7), (0x19BA, 0x19BA), (0xAAB5, 0xAAB6),
   (0xAAB9, 0xAAB9), (0xAABB, 0xAABC)]⟩

def noncharacter : CharSet :=
  unions (range 0xFDD0 0xFDEF :: (List.range 17).map fun plane =>
    range (0x10000 * plane + 0xFFFE) (0x10000 * plane + 0xFFFF))

def patternWhiteSpace : CharSet := ⟨
  [(0x9, 0xD), (0x20, 0x20), (0x85, 0x85), (0x200E, 0x200F), (0x2028, 0x2029)]⟩

def regionalIndicator : CharSet := range 0x1F1E6 0x1F1FF

def emojiModifier : CharSet := range 0x1F3FB 0x1F3FF

def idsBinaryOperator : CharSet := ⟨[(0x2FF0, 0x2FF1), (0x2FF4, 0x2FFD), (0x31EF, 0x31EF)]⟩

def idsTrinaryOperator : CharSet := range 0x2FF2 0x2FF3

def idsUnaryOperator : CharSet := range 0x2FFE 0x2FFF

/-- The characters of words: letters, marks, decimal digits, and what connects them. -/
def word : CharSet := unions [alphabetic, mark, decimalNumber, connectorPunctuation, joinControl]

end Property
end Dealer
