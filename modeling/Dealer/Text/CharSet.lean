-- Sets of characters, as ranges of code points.

namespace Dealer

/-- A set of characters: closed ranges of code points in order, with a gap between two of them. No
range holds a surrogate. -/
structure CharSet where
  ranges : List (Nat × Nat)
  deriving DecidableEq, Inhabited

namespace CharSet

/-! ## Members -/

/-- Whether one of some ranges holds a code point. The ranges are in order, so that none behind the
point is looked at. -/
def inRanges : List (Nat × Nat) → Nat → Bool
  | [], _ => false
  | (first, last) :: rest, n =>
    if n < first then false else decide (n ≤ last) || inRanges rest n

/-- Whether a set holds a character. -/
def has (s : CharSet) (c : Char) : Bool := inRanges s.ranges c.toNat

def isEmpty (s : CharSet) : Bool := s.ranges.isEmpty

/-- The only character of a set, if there is just one. -/
def only? (s : CharSet) : Option Char :=
  match s.ranges with
  | [(first, last)] => if first = last then some (Char.ofNat first) else none
  | _ => none

/-! ## Making sets -/

def empty : CharSet := ⟨[]⟩

/-- What is left of a range when the surrogates are taken out. -/
def withoutSurrogates (r : Nat × Nat) : List (Nat × Nat) :=
  (if r.1 ≤ min r.2 0xD7FF then [(r.1, min r.2 0xD7FF)] else [])
    ++ if max r.1 0xE000 ≤ r.2 then [(max r.1 0xE000, r.2)] else []

/-- The characters from one code point to another. -/
def range (first last : Nat) : CharSet := ⟨withoutSurrogates (first, last)⟩

def single (c : Char) : CharSet := ⟨[(c.toNat, c.toNat)]⟩

/-- Every character. -/
def all : CharSet := range 0 0x10FFFF

/-- Joins a range with those of the ranges behind it that it touches. -/
def joinRanges : Nat × Nat → List (Nat × Nat) → List (Nat × Nat)
  | r, [] => [r]
  | (a, b), (c, d) :: rest =>
    if c ≤ b + 1 then joinRanges (a, max b d) rest else (a, b) :: joinRanges (c, d) rest

/-- The set of some ranges that are in order, but may touch. -/
def ofSorted : List (Nat × Nat) → CharSet
  | [] => empty
  | r :: rest => ⟨joinRanges r rest⟩

/-- The set of some ranges in any order. -/
def ofRanges (ranges : List (Nat × Nat)) : CharSet :=
  ofSorted (ranges.mergeSort fun p q => decide (p.1 ≤ q.1))

/-- Every second code point from one to another. -/
def everySecond (r : Nat × Nat) : List (Nat × Nat) :=
  (List.range ((r.2 - r.1) / 2 + 1)).map fun i => (r.1 + 2 * i, r.1 + 2 * i)

/-- The set of some ranges, and of other ranges of which only every second character counts. -/
def ofRuns (ranges alternating : List (Nat × Nat)) : CharSet :=
  ofRanges (ranges ++ alternating.flatMap everySecond)

/-! ## Operations -/

/-- The characters of either set. -/
def union (s t : CharSet) : CharSet :=
  ofSorted (s.ranges.merge t.ranges fun p q => decide (p.1 ≤ q.1))

/-- The characters of all sets. -/
def unions (sets : List CharSet) : CharSet := sets.foldl union empty

/-- The gaps between ranges from a code point on. -/
def gaps : Nat → List (Nat × Nat) → List (Nat × Nat)
  | n, [] => if n ≤ 0x10FFFF then [(n, 0x10FFFF)] else []
  | n, (first, last) :: rest =>
    if n < first then (n, first - 1) :: gaps (last + 1) rest else gaps (last + 1) rest

/-- The characters that are not in a set. -/
def compl (s : CharSet) : CharSet := ⟨(gaps 0 s.ranges).flatMap withoutSurrogates⟩

/-- The characters of both sets. -/
def inter (s t : CharSet) : CharSet := (s.compl.union t.compl).compl

/-- The characters of the first set that are not in the second. -/
def diff (s t : CharSet) : CharSet := (s.compl.union t).compl

/-- The characters of one set alone. -/
def symmDiff (s t : CharSet) : CharSet := (s.diff t).union (t.diff s)

/-- Whether a set holds no character beyond ASCII. -/
def isAscii (s : CharSet) : Bool := s.ranges.all fun r => decide (r.2 ≤ 0x7F)

end CharSet
end Dealer
