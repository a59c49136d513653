-- Patterns of texts, and the ways to put them together. A pattern is kept
-- simple: a sequence holds no sequence and no two texts side by side, a choice
-- holds no choice, and nothing is repeated just once.
import Dealer.Text.Utf8

namespace Dealer

/-- What the places before and behind must be: in a word or not. -/
inductive WordEdge
  | edge
  | noEdge
  | start
  | stop
  /-- No word before. -/
  | startHalf
  /-- No word behind. -/
  | stopHalf
  deriving DecidableEq, Repr

/-- A condition on a place in a text. -/
inductive Anchor
  | textStart
  | textEnd
  /-- Before the first character of a line. -/
  | lineStart (crlf : Bool)
  /-- Behind the last character of a line. -/
  | lineEnd (crlf : Bool)
  | word (part : WordEdge) (ascii : Bool)
  deriving DecidableEq, Repr

/-- What a part of a text may look like. -/
inductive Pattern
  | empty
  | literal (chars : List Char)
  | oneOf (chars : CharSet)
  | anchor (a : Anchor)
  /-- A number of copies, without a limit or up to one. A lazy one takes as few as it can. -/
  | copies (low : Nat) (high : Option Nat) (lazy : Bool) (part : Pattern)
  /-- A part with a number. -/
  | group (number : Nat) (part : Pattern)
  | sequence (parts : List Pattern)
  | choice (parts : List Pattern)
  deriving Inhabited

namespace Pattern

/-! ## Equality -/

mutual

/-- Whether two patterns are written alike. -/
def same : Pattern → Pattern → Bool
  | .empty, .empty => true
  | .literal s, .literal t => decide (s = t)
  | .oneOf s, .oneOf t => decide (s = t)
  | .anchor a, .anchor b => decide (a = b)
  | .copies low high lazy part, .copies low' high' lazy' part' =>
    decide (low = low' ∧ high = high' ∧ lazy = lazy') && same part part'
  | .group n part, .group n' part' => decide (n = n') && same part part'
  | .sequence parts, .sequence parts' => sameAll parts parts'
  | .choice parts, .choice parts' => sameAll parts parts'
  | _, _ => false

def sameAll : List Pattern → List Pattern → Bool
  | [], [] => true
  | p :: ps, q :: qs => same p q && sameAll ps qs
  | _, _ => false

end

/-! ## Lengths -/

/-- The number of bytes of a text. -/
def byteLength (chars : List Char) : Nat :=
  chars.foldl (fun n c => n + utf8Width c.toNat) 0

mutual

/-- The fewest bytes that a pattern takes. None, if it takes no text at all. -/
def minLength : Pattern → Option Nat
  | .empty => some 0
  | .literal s => some (byteLength s)
  | .oneOf s => s.ranges.head?.map fun r => utf8Width r.1
  | .anchor _ => some 0
  | .copies low _ _ part => (low * ·) <$> minLength part
  | .group _ part => minLength part
  | .sequence parts => minLengthAll parts
  | .choice parts => minLengthAny parts

/-- The fewest bytes of some patterns one after another. -/
def minLengthAll : List Pattern → Option Nat
  | [] => some 0
  | p :: ps => do return (← minLength p) + (← minLengthAll ps)

/-- The fewest bytes of one of some patterns, if each of them takes a text. -/
def minLengthAny : List Pattern → Option Nat
  | [] => none
  | [p] => minLength p
  | p :: ps => do return min (← minLength p) (← minLengthAny ps)

end

mutual

/-- The most bytes that a pattern takes. None, if there is no limit or it takes no text. -/
def maxLength : Pattern → Option Nat
  | .empty => some 0
  | .literal s => some (byteLength s)
  | .oneOf s => s.ranges.getLast?.map fun r => utf8Width r.2
  | .anchor _ => some 0
  | .copies _ high _ part => do return (← high) * (← maxLength part)
  | .group _ part => maxLength part
  | .sequence parts => maxLengthAll parts
  | .choice parts => maxLengthAny parts

/-- The most bytes of some patterns one after another. -/
def maxLengthAll : List Pattern → Option Nat
  | [] => some 0
  | p :: ps => do return (← maxLength p) + (← maxLengthAll ps)

/-- The most bytes of one of some patterns, if each of them has a limit. -/
def maxLengthAny : List Pattern → Option Nat
  | [] => none
  | [p] => maxLength p
  | p :: ps => do return max (← maxLength p) (← maxLengthAny ps)

end

/-! ## Putting patterns together -/

/-- The pattern of the characters in a set. Of a single one it is a text. -/
def ofSet (s : CharSet) : Pattern :=
  match s.only? with
  | some c => .literal [c]
  | none => .oneOf s

/-- Copies of a pattern. Of a pattern that takes only the empty text one copy is enough. -/
def ofCopies (low : Nat) (high : Option Nat) (lazy : Bool) (part : Pattern) : Pattern :=
  let once := decide (maxLength part = some 0)
  let low := if once then min low 1 else low
  let high := if once then some (min (high.getD 1) 1) else high
  if high = some 0 then .empty
  else if low = 1 ∧ high = some 1 then part
  else .copies low high lazy part

/-- The parts that a pattern puts into a sequence. -/
def sequenceParts : Pattern → List Pattern
  | .empty => []
  | .sequence parts => parts
  | p => [p]

/-- Puts a pattern in front of some parts. Two texts become one. -/
def putBefore : Pattern → List Pattern → List Pattern
  | .literal s, .literal t :: rest => .literal (s ++ t) :: rest
  | p, rest => p :: rest

/-- One pattern after another. -/
def ofSequence (parts : List Pattern) : Pattern :=
  match (parts.flatMap sequenceParts).foldr putBefore [] with
  | [] => .empty
  | [p] => p
  | parts => .sequence parts

/-- The parts that a pattern puts into a choice. -/
def choiceParts : Pattern → List Pattern
  | .choice parts => parts
  | p => [p]

/-- The character that a pattern takes, if it takes just one. -/
def onlyChar? : Pattern → Option CharSet
  | .literal [c] => some (.single c)
  | _ => none

/-- The set of characters that a pattern takes, if it takes one out of a set. -/
def onlySet? : Pattern → Option CharSet
  | .oneOf s => some s
  | _ => none

/-- The parts that two lists begin with. -/
def commonParts : List Pattern → List Pattern → List Pattern
  | p :: ps, q :: qs => if same p q then p :: commonParts ps qs else []
  | _, _ => []

/-- The parts of sequences, if each of some patterns is one. -/
def sequences? (parts : List Pattern) : Option (List (List Pattern)) :=
  parts.mapM fun
    | .sequence ps => some ps
    | _ => none

/-- The parts that all of some lists begin with. -/
def commonStart : List (List Pattern) → List Pattern
  | [] => []
  | ps :: rest => rest.foldl commonParts ps

/-- One of some patterns that are no sequences with a common start. Characters make up a set, and
so do sets. -/
def ofDistinct (parts : List Pattern) : Pattern :=
  match parts.flatMap choiceParts with
  | [] => .oneOf .empty
  | [p] => p
  | parts =>
    match parts.mapM onlyChar? <|> parts.mapM onlySet? with
    | some sets => ofSet (.unions sets)
    | none => .choice parts

/-- One of some patterns. What all sequences begin with stands in front of the choice. -/
def ofChoice (parts : List Pattern) : Pattern :=
  match sequences? (parts.flatMap choiceParts) with
  | some (first :: second :: rest) =>
    let start := commonStart (first :: second :: rest)
    if start.isEmpty then ofDistinct parts
    else
      let tails := (first :: second :: rest).map fun ps => ofSequence (ps.drop start.length)
      ofSequence (start ++ [ofDistinct tails])
  | _ => ofDistinct parts

end Pattern
end Dealer
