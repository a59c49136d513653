-- The text of a pattern while it is read: the signs left, the modes, and the
-- groups so far. Filler, which counts for nothing, is there in the spaced mode
-- alone.
import Dealer.Decimal.Reading
import Dealer.Document.Quotation
import Dealer.Pattern.Modes

namespace Dealer.Pattern

/-- A pattern text that has been read up to some point. -/
structure Source where
  rest : List Char
  modes : Modes := {}
  /-- The number of groups so far that have a number. -/
  groups : Nat := 0
  /-- The names of groups so far. -/
  names : List (List Char) := []

/-- A step of reading, which fails where the text is not a pattern. -/
abbrev Read := StateT Source Option

/-! ## Filler -/

/-- Passes over blanks, and comments from a number sign to the end of the line. -/
def afterFiller (inComment : Bool) : List Char → List Char
  | [] => []
  | c :: cs =>
    if inComment then afterFiller (c != '\n') cs
    else if c = '#' then afterFiller true cs
    else if isBlank c then afterFiller false cs
    else c :: cs

/-- Reads up to a closing brace, and leaves out filler in the spaced mode. The text goes on behind
the brace. -/
def upToBrace (spaced inComment : Bool) : List Char → Option (List Char × List Char)
  | [] => none
  | c :: cs =>
    if inComment then upToBrace spaced (c != '\n') cs
    else if spaced && c = '#' then upToBrace spaced true cs
    else if spaced && isBlank c then upToBrace spaced false cs
    else if c = '\x7d' then some ([], cs)
    else (upToBrace spaced false cs).map fun (read, rest) => (c :: read, rest)

/-- Reads the signs of a kind, with filler between them and around them in the spaced mode. -/
def signRun (p : Char → Bool) (spaced inComment : Bool) : List Char → List Char × List Char
  | [] => ([], [])
  | c :: cs =>
    if inComment then signRun p spaced (c != '\n') cs
    else if spaced && c = '#' then signRun p spaced true cs
    else if spaced && isBlank c then signRun p spaced false cs
    else if p c then
      let (signs, rest) := signRun p spaced false cs
      (c :: signs, rest)
    else ([], c :: cs)

/-! ## Steps -/

/-- The sign to read next. -/
def peek? : Read (Option Char) := do return (← get).rest.head?

/-- Reads one sign. -/
def next : Read Char := do
  match (← get).rest with
  | [] => failure
  | c :: cs => modify ({ · with rest := cs }); return c

/-- Reads a sign if it comes next. -/
def nextIs (c : Char) : Read Bool := do
  match (← get).rest with
  | [] => return false
  | d :: cs =>
    if d = c then modify ({ · with rest := cs }); return true
    else return false

/-- Reads some signs if they come next. -/
def nextAre (signs : String) : Read Bool := do
  let rest := (← get).rest
  if signs.toList.isPrefixOf rest then
    modify ({ · with rest := rest.drop signs.length })
    return true
  else return false

/-- Passes over filler. -/
def filler : Read Unit :=
  modify fun s => if s.modes.spaced then { s with rest := afterFiller false s.rest } else s

/-- Passes over blanks in every mode, and over all filler in the spaced mode. -/
def blanks : Read Unit :=
  modify fun s =>
    { s with
      rest := if s.modes.spaced then afterFiller false s.rest else s.rest.dropWhile isBlank }

/-- Reads up to a closing brace. -/
def braced : Read (List Char) := do
  let s ← get
  let (read, rest) ← (upToBrace s.modes.spaced false s.rest : Option _)
  set { s with rest := rest }
  return read

/-- Reads all signs of a kind that come next. -/
def signs (p : Char → Bool) : Read (List Char) := do
  let s ← get
  let (signs, rest) := signRun p s.modes.spaced false s.rest
  set { s with rest := rest }
  return signs

/-- Reads a decimal number of 32 bits, with blanks around it. -/
def decimal : Read Nat := do
  blanks
  let digits ← signs Char.isDigit
  blanks
  guard (digits ≠ [] ∧ digitsValue digits < 4294967296)
  return digitsValue digits

/-- Reads a number of digits to the base sixteen, with filler behind each. -/
def hexDigitRun : Nat → Read (List Char)
  | 0 => return []
  | n + 1 => do
    let d ← next
    filler
    return d :: (← hexDigitRun n)

end Dealer.Pattern
