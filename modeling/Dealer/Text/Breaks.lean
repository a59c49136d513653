-- What a character does where a text is divided into clusters, words and
-- sentences.
import Dealer.Text.Chart.WordParts
import Dealer.Text.Property
import Dealer.Text.Script

namespace Dealer

open CharSet Chart

def carriageReturn : CharSet := single '\r'

def lineFeed : CharSet := single '\n'

def zeroWidthJoiner : CharSet := single '\u200d'

/-! ## Clusters of characters that show as one -/

namespace ClusterBreak

open Category Property

def extend : CharSet := graphemeExtend.union emojiModifier

def control : CharSet :=
  (unions [lineSeparator, paragraphSeparator, Chart.control, format,
      unassigned.inter defaultIgnorable]).diff
    (unions [carriageReturn, lineFeed, range 0x200C 0x200D, prependedConcatenationMark, extend])

def prepend : CharSet :=
  prependedConcatenationMark.union ⟨
    [(0xD4E, 0xD4E), (0x111C2, 0x111C3), (0x113D1, 0x113D1), (0x1193F, 0x1193F),
     (0x11941, 0x11941), (0x11A3A, 0x11A3A), (0x11A84, 0x11A89), (0x11D46, 0x11D46),
     (0x11F02, 0x11F02)]⟩

/-- Marks that take room but stand apart from the letter before them. -/
def separateMark : CharSet := ⟨
  [(0x102B, 0x102C), (0x1038, 0x1038), (0x1062, 0x1064), (0x1067, 0x106D), (0x1083, 0x1083),
   (0x1087, 0x108C), (0x108F, 0x108F), (0x109A, 0x109C), (0x1A61, 0x1A61), (0x1A63, 0x1A64),
   (0xAA7B, 0xAA7B), (0xAA7D, 0xAA7D), (0x11720, 0x11721)]⟩

def spacing : CharSet :=
  (spacingMark.union ⟨[(0xE33, 0xE33), (0xEB3, 0xEB3)]⟩).diff (extend.union separateMark)

/-- The first parts of Korean syllables. -/
def leading : CharSet := ⟨[(0x1100, 0x115F), (0xA960, 0xA97C)]⟩

/-- The vowels of Korean syllables, and vowels that join in the same way. -/
def vowel : CharSet := ⟨
  [(0x1160, 0x11A7), (0xD7B0, 0xD7C6), (0x16D63, 0x16D63), (0x16D67, 0x16D6A)]⟩

/-- The last parts of Korean syllables. -/
def trailing : CharSet := ⟨[(0x11A8, 0x11FF), (0xD7CB, 0xD7FB)]⟩

/-- Korean syllables without a last part: each is followed by the 27 with one. -/
def openSyllable : CharSet :=
  ⟨(List.range 399).map fun i => (0xAC00 + 28 * i, 0xAC00 + 28 * i)⟩

def closedSyllable : CharSet :=
  ⟨(List.range 399).map fun i => (0xAC01 + 28 * i, 0xAC1B + 28 * i)⟩

end ClusterBreak

/-! ## Words -/

namespace WordBreak

open Category Property

def newline : CharSet := ⟨[(0xB, 0xC), (0x85, 0x85), (0x2028, 0x2029)]⟩

def doubleQuote : CharSet := single '"'

def singleQuote : CharSet := single '\''

def betweenNumbers : CharSet := ⟨
  [(0x2C, 0x2C), (0x3B, 0x3B), (0x37E, 0x37E), (0x589, 0x589), (0x60C, 0x60D), (0x66C, 0x66C),
   (0x7F8, 0x7F8), (0x2044, 0x2044), (0xFE50, 0xFE50), (0xFE54, 0xFE54), (0xFF0C, 0xFF0C),
   (0xFF1B, 0xFF1B)]⟩

def betweenAll : CharSet := ⟨
  [(0x2E, 0x2E), (0x2018, 0x2019), (0x2024, 0x2024), (0xFE52, 0xFE52), (0xFF07, 0xFF07),
   (0xFF0E, 0xFF0E)]⟩

def betweenLetters : CharSet := ⟨
  [(0x3A, 0x3A), (0xB7, 0xB7), (0x387, 0x387), (0x55F, 0x55F), (0x5F4, 0x5F4), (0x2027, 0x2027),
   (0xFE13, 0xFE13), (0xFE55, 0xFE55), (0xFF1A, 0xFF1A)]⟩

def extend : CharSet :=
  (unions [graphemeExtend, spacingMark, emojiModifier]).diff zeroWidthJoiner

/-- Signs that stand before a number and hold it together. -/
def numberSign : CharSet := prependedConcatenationMark.diff (single '\u070f')

def format : CharSet :=
  Chart.format.diff
    (unions [range 0x200B 0x200D, prependedConcatenationMark, extend])

def numeric : CharSet :=
  unions [decimalNumber, ⟨[(0x66B, 0x66B), (0x19DA, 0x19DA)]⟩, numberSign]

def hebrewLetter : CharSet := (Script.named "hebr").inter otherLetter

def katakana : CharSet :=
  (Script.named "kana").union ⟨
    [(0x3031, 0x3035), (0x309B, 0x309C), (0x30A0, 0x30A0), (0x30FC, 0x30FC), (0xFF70, 0xFF70)]⟩

/-- Signs that count as letters in words. -/
def letterSign : CharSet := ⟨
  [(0xB8, 0xB8), (0x2C2, 0x2C5), (0x2D2, 0x2D7), (0x2DE, 0x2DF), (0x2E5, 0x2EB), (0x2ED, 0x2ED),
   (0x2EF, 0x2FF), (0x55A, 0x55C), (0x55E, 0x55E), (0x58A, 0x58A), (0x5F3, 0x5F3), (0x70F, 0x70F),
   (0xA708, 0xA716), (0xA720, 0xA721), (0xA789, 0xA78A), (0xAB5B, 0xAB5B)]⟩

def letter : CharSet :=
  (alphabetic.union letterSign).diff
    (unions [ideographic, katakana, undividedLetter, Script.named "hira", extend, hebrewLetter])

def extendNumLet : CharSet := connectorPunctuation.union (single '\u202f')

def space : CharSet :=
  spaceSeparator.diff ⟨[(0xA0, 0xA0), (0x2007, 0x2007), (0x202F, 0x202F)]⟩

end WordBreak

/-! ## Sentences -/

namespace SentenceBreak

open Category Property

def separator : CharSet := ⟨[(0x85, 0x85), (0x2028, 0x2029)]⟩

def continuing : CharSet := ⟨
  [(0x2C, 0x2D), (0x3A, 0x3B), (0x37E, 0x37E), (0x55D, 0x55D), (0x60C, 0x60D), (0x7F8, 0x7F8),
   (0x1802, 0x1802), (0x1808, 0x1808), (0x2013, 0x2014), (0x3001, 0x3001), (0xFE10, 0xFE11),
   (0xFE13, 0xFE14), (0xFE31, 0xFE32), (0xFE50, 0xFE51), (0xFE54, 0xFE55), (0xFE58, 0xFE58),
   (0xFE63, 0xFE63), (0xFF0C, 0xFF0D), (0xFF1A, 0xFF1B), (0xFF64, 0xFF64)]⟩

/-- Points, which may end a sentence or an abbreviation. -/
def point : CharSet := ⟨[(0x2E, 0x2E), (0x2024, 0x2024), (0xFE52, 0xFE52), (0xFF0E, 0xFF0E)]⟩

def terminal : CharSet := sentenceTerminal.diff point

def extend : CharSet := unions [graphemeExtend, spacingMark, zeroWidthJoiner]

def format : CharSet :=
  Chart.format.diff (unions [range 0x200C 0x200D, extend, WordBreak.numberSign])

def space : CharSet := whiteSpace.diff (unions [separator, carriageReturn, lineFeed])

def numeric : CharSet := WordBreak.numeric.union (single '\u066c')

/-- The lower case of Georgian, which has no title case, does not count. -/
def lower : CharSet :=
  lowercase.diff (unions [graphemeExtend, range 0x10D0 0x10FA, range 0x10FD 0x10FF])

def upper : CharSet :=
  (titlecaseLetter.union uppercase).diff ⟨[(0x1C90, 0x1CBA), (0x1CBD, 0x1CBF)]⟩

def otherLetter : CharSet :=
  (alphabetic.union (single '\u05f3')).diff (unions [lower, upper, extend])

/-- Quotation marks that may open or close. -/
def eitherQuote : CharSet := ⟨
  [(0x22, 0x22), (0x27, 0x27), (0x275B, 0x2760), (0x2E00, 0x2E01), (0x2E06, 0x2E08),
   (0x2E0B, 0x2E0B), (0x1F676, 0x1F678)]⟩

def close : CharSet :=
  (unions [openPunctuation, closePunctuation, initialPunctuation, finalPunctuation,
      eitherQuote]).diff sentenceTerminal

end SentenceBreak
end Dealer
