-- The modes of reading a pattern: letters that a pattern switches on and off
-- for what comes after them.

namespace Dealer.Pattern

/-- What changes the meaning of the signs in a pattern. -/
structure Modes where
  /-- A letter stands for itself in every case. -/
  anyCase : Bool := false
  /-- The anchors for start and end are those of a line. -/
  lines : Bool := false
  /-- The point stands for line breaks as well. -/
  wholePoint : Bool := false
  /-- A carriage return breaks lines as well. -/
  crlf : Bool := false
  /-- Copies are lazy unless they are marked. -/
  lazyFirst : Bool := false
  /-- Classes and words are those of all scripts, and not of ASCII alone. -/
  unicode : Bool := true
  /-- Blanks and comments do not count. -/
  spaced : Bool := false

namespace Modes

/-- Switches the mode of a letter on or off. -/
def switch? (modes : Modes) (on : Bool) (letter : Char) : Option Modes :=
  match letter with
  | 'i' => some { modes with anyCase := on }
  | 'm' => some { modes with lines := on }
  | 's' => some { modes with wholePoint := on }
  | 'R' => some { modes with crlf := on }
  | 'U' => some { modes with lazyFirst := on }
  | 'u' => some { modes with unicode := on }
  | 'x' => some { modes with spaced := on }
  | _ => none

/-- Switches on the modes of some letters, and behind a hyphen switches them off. -/
def switchAll? (modes : Modes) (on : Bool) : List Char → Option Modes
  | [] => some modes
  | '-' :: letters => switchAll? modes false letters
  | c :: letters => do switchAll? (← modes.switch? on c) on letters

/-- The modes after some letters. None of them, nor the hyphen, may come twice, and the hyphen may
not come last. -/
def after? (modes : Modes) (letters : List Char) : Option Modes := do
  guard (letters.Nodup ∧ letters.getLast? ≠ some '-')
  modes.switchAll? true letters

end Modes
end Dealer.Pattern
