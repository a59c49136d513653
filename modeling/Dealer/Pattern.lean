-- Patterns as a script writes them.
import Dealer.Pattern.Footprint
import Dealer.Pattern.Reader
import Dealer.Pattern.Search

namespace Dealer

/-- The pattern that a text describes. A pattern that takes too much memory is none. -/
def Pattern.read? (text : String) : Option Pattern := (parse? text).filter fits

/-- A text that stands for a pattern. The text is read only once, and not again for each label that
is looked at. -/
structure PatternText where
  text : String
  pattern? : Option Pattern
  pattern?_eq : pattern? = Pattern.read? text

namespace PatternText

/-- Reads a text that stands for a pattern. -/
def ofText (text : String) : PatternText := ⟨text, Pattern.read? text, rfl⟩

/-- A text stands for one pattern at most. -/
theorem eq_of_text_eq {p q : PatternText} (h : p.text = q.text) : p = q := by
  obtain ⟨_, _, rfl⟩ := p
  obtain ⟨_, _, rfl⟩ := q
  simp only at h
  subst h
  rfl

end PatternText
end Dealer
