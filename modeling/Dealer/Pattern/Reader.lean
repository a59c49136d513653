-- Reading a pattern. A pattern is a choice between sequences, whose parts may be
-- repeated. Groups hold patterns, and modes last to the end of the group.
import Dealer.Pattern.Brackets

namespace Dealer.Pattern

/-! ## Parts -/

/-- A part of a pattern as it is written, with the depth of its own parts. -/
structure Part where
  pattern : Pattern
  depth : Nat := 0
  /-- A change of modes cannot be repeated. -/
  repeats : Bool := true

namespace Part

/-- A part with one more level of depth around it. -/
def within? (pattern : Pattern) (inside : Nat) : Option Part :=
  if inside < nestLimit then some ⟨pattern, inside + 1, true⟩ else none

/-- Parts put together by some rule, where a single part stays what it is. -/
def together? (ofParts : List Pattern → Pattern) : List Part → Option Part
  | [] => some ⟨.empty, 0, false⟩
  | [p] => some p
  | parts =>
    within? (ofParts (parts.map (·.pattern))) ((parts.map (·.depth)).foldl max 0)

/-- Parts one after another, the last one first. -/
def ofSequence? (parts : List Part) : Option Part := together? Pattern.ofSequence parts.reverse

/-- A choice between parts, the last one first. -/
def ofChoices? (parts : List Part) : Option Part := together? Pattern.ofChoice parts.reverse

end Part

/-! ## Single signs -/

/-- A character in the given modes. -/
def charPart (modes : Modes) (c : Char) : Part :=
  if modes.unicode ∨ c.toNat ≤ 0x7F then ⟨ofSet (inModes modes (.single c)), 0, true⟩
  else ⟨.literal [c], 0, true⟩

/-- The characters that the point stands for. With classes of ASCII it would stand for bytes that
are no characters. -/
def pointSet? (modes : Modes) : Option CharSet :=
  if modes.unicode then
    if modes.wholePoint then some .all
    else if modes.crlf then some (CharSet.compl ⟨[(0xA, 0xA), (0xD, 0xD)]⟩)
    else some (CharSet.single '\n').compl
  else none

/-- Reads a part that is no group and no set. -/
def readSign : Read Part := do
  let modes := (← get).modes
  match ← next with
  | '\\' =>
    match ← readEscaped with
    | .char c => return charPart modes c
    | .set chars => return ⟨ofSet chars, 0, true⟩
    | .anchor a => return ⟨.anchor a, 0, true⟩
  | '.' => return ⟨ofSet (← (pointSet? modes : Option CharSet)), 0, true⟩
  | '^' => return ⟨.anchor (if modes.lines then .lineStart modes.crlf else .textStart), 0, true⟩
  | '$' => return ⟨.anchor (if modes.lines then .lineEnd modes.crlf else .textEnd), 0, true⟩
  | c => return charPart modes c

/-! ## Copies -/

/-- Reads numbers of copies behind their opening brace: one number, a number and a comma, or two
numbers in order. -/
def readLimits : Read (Nat × Option Nat) := do
  filler
  let low ← decimal
  let limits ←
    if ← nextIs ',' then do
      filler
      if (← peek?) = some '\x7d' then pure (low, none)
      else do
        let high ← decimal
        guard (low ≤ high)
        pure (low, some high)
    else pure (low, some low)
  guard (← nextIs '\x7d')
  filler
  return limits

/-- The numbers of copies that a sign asks for. Behind a brace they are read. -/
def readCopies? : Read (Option (Nat × Option Nat)) := do
  if ← nextIs '?' then return some (0, some 1)
  else if ← nextIs '*' then return some (0, none)
  else if ← nextIs '+' then return some (1, none)
  else if ← nextIs '\x7b' then return some (← readLimits)
  else return none

/-- Copies of the part before. A mark behind their number makes them lazy. -/
def readCopiesOf (low : Nat) (high : Option Nat) (part : Part) : Read Part := do
  let lazy ← nextIs '?'
  let lazy := lazy != (← get).modes.lazyFirst
  guard part.repeats
  (Part.within? (ofCopies low high lazy part.pattern) part.depth : Option Part)

/-! ## Groups -/

/-- What begins with an opening parenthesis. -/
inductive Opening
  | group (number : Option Nat) (modes : Modes)
  | modes (modes : Modes)

/-- A letter, or a sign that a name may begin with or go on with. -/
def isNameChar (first : Bool) (c : Char) : Bool :=
  if first then c = '_' || isLetter c
  else c = '_' || c = '.' || c = '[' || c = ']' || isLetterOrNumber c

/-- Whether signs are the name of a group. -/
def isName : List Char → Bool
  | [] => false
  | c :: cs => isNameChar true c && cs.all (isNameChar false)

/-- Counts a group with a number of its own. -/
def newGroup : Read Opening := do
  let s ← get
  set { s with groups := s.groups + 1 }
  return .group (some (s.groups + 1)) s.modes

/-- Reads the name of a group, which no other group has, up to the bracket behind it. -/
def readName : Read Unit := do
  let s ← get
  let name := s.rest.takeWhile (· ≠ '>')
  guard (isName name ∧ name ∉ s.names)
  set { s with rest := s.rest.drop name.length, names := name :: s.names }
  guard (← nextIs '>')

/-- Reads the modes behind a question mark. A colon begins a group with these modes, and a closing
parenthesis makes them last. There are no modes without letters to make last. -/
def readModes : Read Opening := do
  let s ← get
  let letters := s.rest.takeWhile fun c => c ≠ ':' ∧ c ≠ ')'
  let modes ← (s.modes.after? letters : Option Modes)
  set { s with rest := s.rest.drop letters.length }
  if ← nextIs ':' then return .group none modes
  else
    guard (← nextIs ')')
    guard (letters ≠ [])
    return .modes modes

/-- Counts a group that has a name as well. -/
def namedGroup : Read Opening := do
  readName
  newGroup

/-- Reads what stands behind an opening parenthesis. -/
def readParenthesis : Read Opening := do
  filler
  if ← nextAre "?P<" then namedGroup
  else if ← nextAre "?<" then namedGroup
  else if ← nextIs '?' then readModes
  else newGroup

/-! ## The whole pattern -/

/-- Reads the rest of a pattern up to its end, or to the parenthesis that closes the group around
it. Some choices have been read, and some parts of the next, the last ones first. The number
bounds the signs that are left. -/
def readRest (opened : Nat) (choices : List Part) (parts : List Part) : Nat → Read Part
  | 0 => failure
  | fuel + 1 => do
    filler
    let c? ← peek?
    if c? = none ∨ c? = some ')' then
      let choice ← (Part.ofSequence? parts : Option Part)
      (Part.ofChoices? (choice :: choices) : Option Part)
    else if ← nextIs '|' then
      let choice ← (Part.ofSequence? parts : Option Part)
      readRest opened (choice :: choices) [] fuel
    else if ← nextIs '(' then
      let outside := (← get).modes
      match ← readParenthesis with
      | .modes modes =>
        modify ({ · with modes := modes })
        readRest opened choices (⟨.empty, 0, false⟩ :: parts) fuel
      | .group number modes =>
        guard (opened < nestLimit)
        modify ({ · with modes := modes })
        let inside ← readRest (opened + 1) [] [] fuel
        guard (← nextIs ')')
        modify ({ · with modes := outside })
        let pattern := number.elim inside.pattern fun n => .group n inside.pattern
        let group ← (Part.within? pattern inside.depth : Option Part)
        readRest opened choices (group :: parts) fuel
    else if ← nextIs '[' then
      let members ← readBrackets fuel
      readRest opened choices (⟨ofSet members.chars, members.depth, true⟩ :: parts) fuel
    else if let some (low, high) ← readCopies? then
      match parts with
      | [] => failure
      | part :: parts => readRest opened choices ((← readCopiesOf low high part) :: parts) fuel
    else readRest opened choices ((← readSign) :: parts) fuel

/-- The pattern that a text describes, however much memory it takes. -/
def parse? (text : String) : Option Pattern := do
  let (part, source) ← readRest 0 [] [] (text.length + 1) |>.run { rest := text.toList }
  guard (source.rest = [])
  return part.pattern

end Dealer.Pattern
