-- Searching a text for a pattern. The places of a text are those before, between
-- and behind its characters, and a set of places is a number, with one bit for
-- each place. A pattern leads from a set of places to the set of those where
-- what it takes may end.
import Dealer.Pattern.Basic
import Dealer.Text.Property

namespace Dealer

/-- A set of places in a text. Bit `n` is set if place `n`, which `n` characters are before, is in
the set. -/
abbrev Places := Nat

namespace Places

/-- The places at which some answers say yes, the first of them at place 0. -/
def ofAnswers (answers : List Bool) : Places :=
  answers.foldr (fun b places => places <<< 1 ||| b.toNat) 0

/-- The places right behind others. -/
def moveOn (places : Places) : Places := places <<< 1

end Places

/-! ## Characters and anchors -/

/-- The places of a text, each with the characters before and behind it. -/
def neighbours (before : Option Char) : List Char → List (Option Char × Option Char)
  | [] => [(before, none)]
  | c :: cs => (before, some c) :: neighbours (some c) cs

/-- The characters of words in ASCII. -/
def Pattern.asciiWordChar (c : Char) : Bool := c.isAlphanum || c = '_'

/-- Whether there is a character and it belongs to a word. -/
def Pattern.isInWord (ascii : Bool) (c? : Option Char) : Bool :=
  c?.any fun c => if ascii then asciiWordChar c else Property.word.has c

/-- Whether a place between a word or none before and a word or none behind is the edge that is
asked for. -/
def WordEdge.holds (e : WordEdge) (before behind : Bool) : Bool :=
  match e with
  | .edge => before != behind
  | .noEdge => before == behind
  | .start => !before && behind
  | .stop => before && !behind
  | .startHalf => !before
  | .stopHalf => !behind

/-- Whether a place between two characters, or at an end of the text, is what an anchor asks for. A
carriage return and a line feed break a line once. -/
def Anchor.holds (a : Anchor) (before behind : Option Char) : Bool :=
  match a with
  | .textStart => before.isNone
  | .textEnd => behind.isNone
  | .lineStart false => before.isNone || before == some '\n'
  | .lineEnd false => behind.isNone || behind == some '\n'
  | .lineStart true =>
    before.isNone || before == some '\n' || before == some '\r' && behind != some '\n'
  | .lineEnd true =>
    behind.isNone || behind == some '\r' || behind == some '\n' && before != some '\r'
  | .word e ascii => e.holds (Pattern.isInWord ascii before) (Pattern.isInWord ascii behind)

/-! ## Patterns on a text -/

/-- A pattern together with a text. -/
inductive Laid
  | empty
  /-- One of the characters at these places. -/
  | char (places : Places)
  /-- Nothing, at these places. -/
  | anchor (places : Places)
  | copies (low : Nat) (high : Option Nat) (part : Laid)
  | sequence (first second : Laid)
  | choice (first second : Laid)

namespace Pattern

/-- A text to be found, one character after another. -/
def layText (text : List Char) : List Char → Laid
  | [] => .empty
  | [c] => .char (.ofAnswers (text.map (· = c)))
  | c :: cs => .sequence (.char (.ofAnswers (text.map (· = c)))) (layText text cs)

mutual

/-- Puts a pattern on a text. -/
def lay (text : List Char) : Pattern → Laid
  | .empty => .empty
  | .literal s => layText text s
  | .oneOf s => .char (.ofAnswers (text.map s.has))
  | .anchor a =>
    .anchor (.ofAnswers ((neighbours none text).map fun (before, behind) => a.holds before behind))
  | .copies low high _ part => .copies low high (lay text part)
  | .group _ part => lay text part
  | .sequence parts => laySequence text parts
  | .choice parts => layChoice text parts

def laySequence (text : List Char) : List Pattern → Laid
  | [] => .empty
  | p :: ps => .sequence (lay text p) (laySequence text ps)

def layChoice (text : List Char) : List Pattern → Laid
  | [] => .char 0
  | p :: ps => .choice (lay text p) (layChoice text ps)

end
end Pattern

/-! ## Searching -/

namespace Places

/-- Takes a step a number of times, until it leads nowhere new. -/
def afterCopies (step : Places → Places) : Nat → Places → Places
  | 0, places => places
  | n + 1, places =>
    let next := step places
    if next = places then places else afterCopies step n next

/-- Takes a step up to a number of times, and gathers all places on the way. Only from places that
are new is it taken again. -/
def gather (step : Places → Places) : Nat → Places → Places → Places
  | 0, places, _ => places
  | n + 1, places, fresh =>
    let next := step fresh
    let found := places ||| next
    if found = places then places else gather step n found (found ^^^ places)

end Places

/-- The places where a pattern may end that starts at one of some places. Of copies without a limit
there are never more to look at than there are places. -/
def Laid.ends (count : Nat) : Laid → Places → Places
  | .empty, places => places
  | .char chars, places => (places &&& chars).moveOn
  | .anchor anchors, places => places &&& anchors
  | .copies low high part, places =>
    let start := Places.afterCopies (part.ends count) low places
    Places.gather (part.ends count) (high.elim count (· - low)) start start
  | .sequence first second, places => second.ends count (first.ends count places)
  | .choice first second, places => first.ends count places ||| second.ends count places

/-- Whether a text has a part that a pattern takes. -/
def Pattern.foundIn (p : Pattern) (text : String) : Bool :=
  let chars := text.toList
  let count := chars.length + 1
  decide ((p.lay chars).ends count (1 <<< count - 1) ≠ 0)

end Dealer
