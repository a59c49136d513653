-- The memory of a pattern. A pattern is searched for by two automata, one that
-- reads a text forward and one that reads it backward, and a pattern whose
-- automaton takes too much memory is refused. This module counts the memory
-- without the automata.
import Dealer.Pattern.Basic
import Std.Data.HashMap

namespace Dealer

/-- The direction in which a text is read. -/
inductive Direction
  | forward
  | backward
  deriving DecidableEq

/-- What an automaton is made of: states, and the links of those states that have any number of
them. -/
structure Footprint where
  states : Nat := 0
  /-- Links that read one of some bytes. -/
  steps : Nat := 0
  /-- Links that read nothing. -/
  forks : Nat := 0
  deriving DecidableEq, Repr

namespace Footprint

/-- The bytes of memory that an automaton takes. -/
def bytes (f : Footprint) : Nat := 32 * f.states + 8 * f.steps + 4 * f.forks

/-- The most bytes of memory that an automaton may take: ten times 2 to the power of 20. -/
def limit : Nat := 10485760

def fits (f : Footprint) : Bool := decide (f.bytes ≤ limit)

/-! ## Small parts -/

def addStates (n : Nat) (f : Footprint) : Footprint := { f with states := f.states + n }

def addSteps (n : Nat) (f : Footprint) : Footprint := { f with steps := f.steps + n }

def addForks (n : Nat) (f : Footprint) : Footprint := { f with forks := f.forks + n }

/-- A state that forks into a number of others. -/
def addFork (n : Nat) (f : Footprint) : Footprint := (f.addStates 1).addForks n

/-- Adds a part again and again, until the automaton is too large anyway. -/
def addCopies (part : Footprint → Footprint) (f : Footprint) : Nat → Footprint
  | 0 => f
  | n + 1 => if f.fits then addCopies part (part f) n else f

/-! ## Sets of characters -/

/-- A shelf with a number of places. A key has one place, which it may have to leave to another
key, and holds the state with this key. -/
structure Shelf (α : Type) where
  size : UInt64
  places : Std.HashMap UInt64 (α × Nat) := {}

namespace Shelf

/-- The place for some numbers, which a hash finds out: multiply by a large prime, and mix the next
number in. -/
def place {α : Type} (shelf : Shelf α) (numbers : List Nat) : UInt64 :=
  numbers.foldl (fun h n => (h ^^^ n.toUInt64) * 1099511628211) 14695981039346656037 % shelf.size

end Shelf

/-- The state for a key. If it is on the shelf it is used again, and if not it is the next state,
which takes the place on the shelf. -/
def reuse {α : Type} [DecidableEq α] (key : α) (numbers : List Nat) (steps : Nat) :
    StateM (Footprint × Shelf α) Nat := fun (f, shelf) =>
  let place := shelf.place numbers
  match shelf.places[place]? with
  | some (key', state) =>
    if key = key' then (state, f, shelf) else new f shelf place
  | none => new f shelf place
where
  new (f : Footprint) (shelf : Shelf α) (place : UInt64) : Nat × Footprint × Shelf α :=
    (f.states, (f.addStates 1).addSteps steps,
      { shelf with places := shelf.places.insert place (key, f.states) })

/-- The sequences that begin with equal ranges of bytes, brought together. -/
def byFirst : List (List ByteRange) → List (ByteRange × List (List ByteRange))
  | [] => []
  | [] :: rest => byFirst rest
  | (r :: tail) :: rest =>
    match byFirst rest with
    | (r', tails) :: groups =>
      if r = r' then (r, tail :: tails) :: groups else (r, [tail]) :: (r', tails) :: groups
    | [] => [(r, [tail])]

/-- The state from which sequences of byte ranges lead to the last state. States with the same links
are one. The number bounds the length of the sequences. -/
def forwardState (last : Nat) : Nat → List (List ByteRange) →
    StateM (Footprint × Shelf (List (ByteRange × Nat))) Nat
  | 0, _ => return last
  | fuel + 1, sequences => do
    if sequences.all List.isEmpty then return last
    let links ← (byFirst sequences).mapM fun (r, tails) =>
      return (r, ← forwardState last fuel tails)
    reuse links (links.flatMap fun (r, next) => [r.first.toNat, r.last.toNat, next]) links.length

/-- The state from which a sequence of byte ranges leads backward to the last state. -/
def backwardState (last : Nat) (sequence : List ByteRange) :
    StateM (Footprint × Shelf (Nat × ByteRange)) Nat :=
  sequence.foldlM (fun state r =>
    reuse (state, r) [state, r.first.toNat, r.last.toNat] 0) last

/-- Adds a set of characters. In ASCII it takes one state with a link for each range. -/
def addSet (d : Direction) (s : CharSet) (f : Footprint) : Footprint :=
  if s.isAscii then (f.addStates 2).addSteps s.ranges.length
  else
    match d with
    | .forward =>
      (forwardState f.states 4 s.byteSequences (f.addStates 1, { size := 10000 })).2.1
    | .backward =>
      let sequences := s.byteSequences
      let start := (f.addFork sequences.length).addStates 1
      (sequences.forM (fun sequence => discard (backwardState (f.states + 1) sequence))
        (start, { size := 1000 })).2.1

/-! ## Choices of texts -/

/-- The texts before, between and behind empty texts. -/
def splitAtEmpty : List (List UInt8) → List (List (List UInt8))
  | [] => [[]]
  | [] :: rest => [] :: splitAtEmpty rest
  | t :: rest =>
    match splitAtEmpty rest with
    | first :: others => (t :: first) :: others
    | [] => [[t]]

/-- The texts between empty texts, where several empty texts in front of all others count as one. -/
def sections (texts : List (List UInt8)) : List (List (List UInt8)) :=
  let all := splitAtEmpty texts
  let rest := all.dropWhile List.isEmpty
  if rest.length < all.length then [] :: rest else rest

/-- Puts what follows a byte in front of what else follows it. -/
def putTail (b : UInt8) (tail : List UInt8) :
    List (UInt8 × List (List UInt8)) → List (UInt8 × List (List UInt8))
  | [] => [(b, [tail])]
  | (b', tails) :: rest =>
    if b = b' then (b', tail :: tails) :: rest else (b', tails) :: putTail b tail rest

/-- What follows each of the bytes that texts begin with. -/
def tailsByFirst (texts : List (List UInt8)) : List (UInt8 × List (List UInt8)) :=
  texts.foldr (fun t groups =>
    match t with
    | [] => groups
    | b :: tail => putTail b tail groups) []

/-- Adds a tree of texts, which reads their common first bytes only once. A section of it is one
state. The number bounds the length of the texts. -/
def addTree : Nat → List (List UInt8) → Footprint → Footprint
  | 0, _, f => f
  | fuel + 1, texts, f =>
    if texts.all List.isEmpty then f
    else
      let sections := sections texts
      let f := sections.foldl (fun f texts =>
        let branches := tailsByFirst texts
        let f := branches.foldl (fun f branch => addTree fuel branch.2 f) f
        match branches with
        | [] => f
        | [_] => (f.addStates 1).addForks 1
        | _ => ((f.addStates 1).addSteps branches.length).addForks 1) f
      f.addFork (sections.length - 1)

/-- Adds a choice of texts. -/
def addTexts (texts : List (List UInt8)) (f : Footprint) : Footprint :=
  addTree ((texts.map List.length).foldl max 0 + 1) texts (f.addStates 1)

end Footprint

namespace Pattern

/-! ## Ends -/

mutual

/-- Whether a part ends in a state that forks, so that a link to what comes next is one more. -/
def endsInFork (d : Direction) : Pattern → Bool
  | .copies low high _ part =>
    match high with
    | none => decide (0 < low) || decide (0 < (minLength part).getD 0)
    | some high => decide (low = high) && endsInFork d part
  | .group _ part => decide (d = .backward) && endsInFork d part
  | .sequence parts => endsInForkAll d parts
  | _ => false

def endsInForkAll (d : Direction) : List Pattern → Bool
  | [] => false
  | [p] => endsInFork d p
  | p :: ps => if d = .backward then endsInFork d p else endsInForkAll d ps

end

/-- The number of links that a part adds to its end. -/
def endForks (d : Direction) (p : Pattern) : Nat := if endsInFork d p then 1 else 0

mutual

/-- Whether a pattern takes a text only from its start on, or backward from its end. -/
def isBound (d : Direction) : Pattern → Bool
  | .anchor a => decide (a = if d = .forward then .textStart else .textEnd)
  | .copies low _ _ part => decide (0 < low) && isBound d part
  | .group _ part => isBound d part
  | .sequence parts => match d with
    | .forward => firstIsBound parts
    | .backward => lastIsBound parts
  | .choice parts => allAreBound d parts
  | _ => false

/-- Whether one of the parts is bound that only parts without length come before. -/
def firstIsBound : List Pattern → Bool
  | [] => false
  | p :: ps => isBound .forward p || decide (maxLength p = some 0) && firstIsBound ps

/-- Whether one of the parts is bound that only parts without length come behind. -/
def lastIsBound : List Pattern → Bool
  | [] => false
  | p :: ps =>
    lastIsBound ps || ps.all (fun q => decide (maxLength q = some 0)) && isBound .backward p

def allAreBound (d : Direction) : List Pattern → Bool
  | [] => true
  | p :: ps => isBound d p && allAreBound d ps

end

/-! ## Parts -/

/-- The bytes of a pattern that is just a text, in the order in which they are read. -/
def textBytes? (d : Direction) : Pattern → Option (List UInt8)
  | .literal s =>
    let bytes := s.flatMap utf8Bytes
    some (if d = .forward then bytes else bytes.reverse)
  | _ => none

/-- Adds copies of a part, which takes up a number of links at its end. -/
def addCopies (low : Nat) (high : Option Nat) (endForks : Nat) (anyLength : Bool)
    (part : Footprint → Footprint) (f : Footprint) : Footprint :=
  match low, high with
  | 0, some 1 => (part (f.addFork 2)).addStates 1 |>.addForks endForks
  | 0, none =>
    if anyLength then part f |>.addFork 2 |>.addFork 2 |>.addStates 1 |>.addForks endForks
    else part (f.addFork 1) |>.addForks endForks
  | low, none => Footprint.addCopies part f low |>.addFork 1 |>.addForks (low * endForks)
  | low, some high =>
    if low = high then Footprint.addCopies part f low |>.addForks ((low - 1) * endForks)
    else
      let f := if low = 0 then f.addStates 1 else Footprint.addCopies part f low
      Footprint.addCopies (fun f => part (f.addFork 2)) (f.addStates 1) (high - low)
        |>.addForks (high * endForks)

mutual

/-- Adds a pattern to an automaton. The order in which states are added tells which of them can be
used again. -/
def addTo (d : Direction) : Pattern → Footprint → Footprint
  | .empty, f => f.addStates 1
  | .literal s, f => f.addStates (byteLength s)
  | .oneOf s, f => f.addSet d s
  | .anchor _, f => f.addStates 1
  | .copies low high _ part, f =>
    addCopies low high (endForks d part) (decide ((minLength part).getD 0 = 0)) (addTo d part) f
  | .group _ part, f =>
    match d with
    | .forward => (addTo d part (f.addStates 1)).addStates 1 |>.addForks (endForks d part)
    | .backward => addTo d part f
  | .sequence parts, f => addSequence d parts f
  | .choice parts, f =>
    match parts.mapM (textBytes? d) with
    | some texts => f.addTexts texts
    | none => addChoice d 0 parts f

/-- Adds parts one after another, in the order in which a text is read. -/
def addSequence (d : Direction) : List Pattern → Footprint → Footprint
  | [], f => f
  | [p], f => addTo d p f
  | p :: ps, f =>
    match d with
    | .forward => addSequence d ps ((addTo d p f).addForks (endForks d p))
    | .backward => addTo d p ((addSequence d ps f).addForks (if endsInForkAll d ps then 1 else 0))

/-- Adds the parts of a choice when some of them have been added. The state that forks into them
comes behind the second. -/
def addChoice (d : Direction) (before : Nat) : List Pattern → Footprint → Footprint
  | [], f => f
  | p :: ps, f =>
    let f := (addTo d p f).addForks (endForks d p + 1)
    addChoice d (before + 1) ps (if before = 1 then f.addStates 2 else f)

end

/-! ## The whole automaton -/

/-- What the automaton of a pattern is made of. It begins with a loop over what comes before the
pattern, if anything may. Forward, it notes where the whole pattern and each group begins and
ends. -/
def footprint (d : Direction) (p : Pattern) : Footprint :=
  let f : Footprint := {}
  let f := if isBound d p then f.addStates 1 else (f.addFork 2).addStates 2 |>.addSteps 1
  (addTo d (.group 0 p) f).addStates 1
    |>.addForks (match d with | .forward => 0 | .backward => endForks d p)

/-- Whether a pattern is small enough in both directions. -/
def fits (p : Pattern) : Bool := (footprint .forward p).fits && (footprint .backward p).fits

end Pattern
end Dealer
