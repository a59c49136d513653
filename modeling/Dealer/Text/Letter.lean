-- The classes of characters that scripts speak of: blanks, letters, and the
-- characters that a message shows as they are. Scripts know the characters of
-- Unicode 17, of which the charts hold those of Unicode 16.
import Dealer.Text.Chart.Added
import Dealer.Text.Property

namespace Dealer

/-- A character that separates words. -/
def isBlank (c : Char) : Bool := Property.whiteSpace.has c

/-- The letters of all scripts. -/
def scriptLetters : CharSet := Property.alphabetic.union Chart.addedLetter

/-- A letter of some script. -/
def isLetter (c : Char) : Bool := scriptLetters.has c

/-- The letters, digits and other numbers of all scripts. -/
def scriptLettersAndNumbers : CharSet :=
  .unions [scriptLetters, Category.number, Chart.addedNumber]

/-- A letter, or a digit or other number of some script. -/
def isLetterOrNumber (c : Char) : Bool := scriptLettersAndNumbers.has c

/-- The characters with a glyph of their own, and the space. -/
def visible : CharSet :=
  (((Category.assigned.union Chart.added).diff
      (.unions [Category.separator, Chart.control, Chart.format, Chart.privateUse])).union
    (.single ' ')).diff Property.defaultIgnorable

/-- The characters that attach to the one before them. The two voicing marks of half width stand
by themselves. -/
def attached : CharSet :=
  (Property.graphemeExtend.union Chart.addedExtend).diff (.range 0xFF9E 0xFF9F)

/-- A character that shows as itself in a message. -/
def isShown (c : Char) : Bool := visible.has c && !attached.has c

end Dealer
