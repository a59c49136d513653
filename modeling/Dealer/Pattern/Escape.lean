-- What comes after a backslash in a pattern: a character, a class of
-- characters, or an anchor.
import Dealer.Pattern.Basic
import Dealer.Pattern.Source
import Dealer.Text.Casing
import Dealer.Text.Name

namespace Dealer.Pattern

/-! ## Classes -/

/-- A set of characters together with those that differ from them in case alone, if the modes say
so. -/
def inModes (modes : Modes) (s : CharSet) : CharSet :=
  if modes.anyCase then if modes.unicode then s.inEveryCase else s.inBothCases else s

/-- The characters that are not in a set. With classes of ASCII there is no such set, as it would
hold bytes that are no characters. -/
def complement? (modes : Modes) (s : CharSet) : Option CharSet :=
  if modes.unicode || s.compl.isAscii then some s.compl else none

/-- A set of characters, or those that are not in it. -/
def negatedIf? (negated : Bool) (modes : Modes) (s : CharSet) : Option CharSet :=
  if negated then complement? modes s else some s

def asciiDigit : CharSet := .range 0x30 0x39

def asciiSpace : CharSet := ⟨[(0x9, 0xD), (0x20, 0x20)]⟩

def asciiWord : CharSet := ⟨[(0x30, 0x39), (0x41, 0x5A), (0x5F, 0x5F), (0x61, 0x7A)]⟩

/-- The characters of the class with a letter. -/
def classSet? (modes : Modes) (letter : Char) : Option CharSet :=
  let (chars, asciiChars) :=
    match letter.toLower with
    | 'd' => (Chart.decimalNumber, asciiDigit)
    | 's' => (Property.whiteSpace, asciiSpace)
    | _ => (Property.word, asciiWord)
  negatedIf? letter.isUpper modes (if modes.unicode then chars else asciiChars)

/-- The parts of a text before and behind a sign, where the sign is first. -/
def breakAt? (sign : List Char) (cs : List Char) : Option (List Char × List Char) :=
  if sign.isPrefixOf cs then some ([], cs.drop sign.length)
  else
    match cs with
    | [] => none
    | c :: cs => (breakAt? sign cs).map fun (before, behind) => (c :: before, behind)

/-- The set of characters with a name, or with the value of a property. The flag says whether the
name asks for all others. -/
def propertySet? (name : List Char) : Option (CharSet × Bool) :=
  match breakAt? ['!', '='] name with
  | some (property, value) => (CharSet.valued? property value).map (·, true)
  | none =>
    match breakAt? [':'] name <|> breakAt? ['='] name with
    | some (property, value) => (CharSet.valued? property value).map (·, false)
    | none => (CharSet.named? name).map (·, false)

/-! ## Escapes -/

/-- What a backslash and what comes after it stand for. -/
inductive Escaped
  | char (c : Char)
  | set (chars : CharSet)
  | anchor (a : Anchor)

/-- Reads a character by its number. Between braces it has any number of digits, and otherwise as
many as the letter asks for. Two digits stand for a byte, which is a character only in
ASCII or with classes of all scripts. -/
def readNumbered (letter : Char) : Read Char := do
  filler
  if ← nextIs '\x7b' then
    let digits ← braced
    filler
    guard (digits ≠ [])
    (hexNumber? digits >>= charAt? : Option Char)
  else
    let digits ← hexDigitRun (match letter with | 'x' => 2 | 'u' => 4 | _ => 8)
    let c ← (hexNumber? digits >>= charAt? : Option Char)
    guard ((← get).modes.unicode ∨ letter ≠ 'x' ∨ c.toNat ≤ 0x7F)
    return c

/-- Reads the name of a set of characters: one letter, or more between braces. -/
def readProperty (negated : Bool) : Read CharSet := do
  filler
  let name ←
    if ← nextIs '\x7b' then braced
    else do
      let c ← next
      guard (c ≠ '\\')
      filler
      pure [c]
  let modes := (← get).modes
  guard modes.unicode
  let (chars, others) ← (propertySet? name : Option _)
  (negatedIf? (negated != others) modes (inModes modes chars) : Option CharSet)

/-- The edge of a word that has a name. -/
def wordEdge? (name : List Char) : Option WordEdge :=
  match String.ofList name with
  | "start" => some .start
  | "end" => some .stop
  | "start-half" => some .startHalf
  | "end-half" => some .stopHalf
  | _ => none

/-- Reads which edge of a word is meant. A brace with a letter or a hyphen behind it begins a name,
and other braces a number of copies. -/
def readWordEdge : Read WordEdge := do
  let start ← get
  if ← nextIs '\x7b' then
    filler
    let c ← next
    set start
    if c.isAlpha || c = '-' then
      let _ ← next
      (wordEdge? (← braced) : Option WordEdge)
    else return .edge
  else return .edge

/-- Reads what comes after a backslash. -/
def readEscaped : Read Escaped := do
  let c ← next
  let modes := (← get).modes
  let word (part : WordEdge) : Escaped := .anchor (.word part !modes.unicode)
  match c with
  | 'x' | 'u' | 'U' => return .char (← readNumbered c)
  | 'p' => return .set (← readProperty false)
  | 'P' => return .set (← readProperty true)
  | 'd' | 's' | 'w' | 'D' | 'S' | 'W' => return .set (← (classSet? modes c : Option CharSet))
  | 'a' => return .char '\x07'
  | 'f' => return .char '\x0c'
  | 't' => return .char '\t'
  | 'n' => return .char '\n'
  | 'r' => return .char '\r'
  | 'v' => return .char '\x0b'
  | 'A' => return .anchor .textStart
  | 'z' => return .anchor .textEnd
  | 'b' => return word (← readWordEdge)
  | 'B' => return word .noEdge
  | '<' => return word .start
  | '>' => return word .stop
  | _ =>
    guard (c.toNat ≤ 0x7F ∧ ¬ c.isAlphanum)
    return .char c

end Dealer.Pattern
