-- How deep the brackets of a script text are nested. The text is skimmed before
-- it is read: brackets in quotes and in comments do not count.

namespace Dealer

/-- The deepest nesting of brackets that a script text may have. -/
def maxNesting : Nat := 64

/-- Where in a text the skimmer stands. -/
inductive Skim
  /-- Outside quotes and comments. -/
  | code
  /-- Between quotes. -/
  | quoted (quote : Char)
  /-- Between quotes, after a backslash. -/
  | escaped (quote : Char)
  /-- In a comment that ends with the line. -/
  | line
  /-- In a comment that ends with a star and a slash. The flag tells that the last character was
  a star. -/
  | block (star : Bool)
  deriving DecidableEq, Repr

/-- Whether no bracket of a text opens more than `limit` levels, when `depth` levels are open
before it. A bracket that closes nothing is passed over. -/
def nestsWithin (limit : Nat) : Skim → Nat → List Char → Bool
  | _, _, [] => true
  | .quoted q, depth, c :: cs =>
    if c = '\\' then nestsWithin limit (.escaped q) depth cs
    else if c = q then nestsWithin limit .code depth cs
    else nestsWithin limit (.quoted q) depth cs
  | .escaped q, depth, _ :: cs => nestsWithin limit (.quoted q) depth cs
  | .line, depth, c :: cs =>
    if c = '\n' then nestsWithin limit .code depth cs else nestsWithin limit .line depth cs
  | .block star, depth, c :: cs =>
    if star && c = '/' then nestsWithin limit .code depth cs
    else nestsWithin limit (.block (c = '*')) depth cs
  | .code, depth, '/' :: '/' :: cs => nestsWithin limit .line depth cs
  | .code, depth, '/' :: '*' :: cs => nestsWithin limit (.block false) depth cs
  | .code, depth, c :: cs =>
    if c = '"' || c = '\'' then nestsWithin limit (.quoted c) depth cs
    else if c = '\x7b' || c = '[' then depth < limit && nestsWithin limit .code (depth + 1) cs
    else if c = '\x7d' || c = ']' then nestsWithin limit .code (depth - 1) cs
    else nestsWithin limit .code depth cs

/-- What is no slash in code does not need the character behind it. -/
theorem nestsWithin_of_ne_slash {limit depth : Nat} {c : Char} (h : c ≠ '/') (cs : List Char) :
    nestsWithin limit .code depth (c :: cs) =
      if c = '"' || c = '\'' then nestsWithin limit (.quoted c) depth cs
      else if c = '\x7b' || c = '[' then depth < limit && nestsWithin limit .code (depth + 1) cs
      else if c = '\x7d' || c = ']' then nestsWithin limit .code (depth - 1) cs
      else nestsWithin limit .code depth cs := by
  rw [nestsWithin]
  · intro r hc _
    exact h hc
  · intro r hc _
    exact h hc

end Dealer
