-- Characters that differ in case alone.
import Dealer.Text.CharSet
import Dealer.Text.Chart.CaseFold

namespace Dealer

/-- The characters of a run, each with the one that it folds to. -/
def Chart.FoldRun.pairs (r : Chart.FoldRun) : List (Nat × Nat) :=
  (List.range ((r.last - r.first) / r.step + 1)).map fun i =>
    (r.first + i * r.step, r.target + i * r.step)

/-- Every character that folds to another, with that other. -/
def casePairs : List (Nat × Nat) := Chart.caseFolds.flatMap Chart.FoldRun.pairs

/-- The pairs of ASCII. -/
def asciiCasePairs : List (Nat × Nat) := (List.range 26).map fun i => (0x41 + i, 0x61 + i)

namespace CharSet

/-- The characters of a set, and those that some pairs make equal to one of them. Two characters
that fold to the same one are equal. -/
def closedUnder (pairs : List (Nat × Nat)) (s : CharSet) : CharSet :=
  let targets := ofRanges <| (pairs.filter fun p =>
    inRanges s.ranges p.1 || inRanges s.ranges p.2).map fun p => (p.2, p.2)
  if targets.isEmpty then s
  else
    let sources := pairs.filter fun p => inRanges targets.ranges p.2
    unions [s, targets, ofRanges (sources.map fun p => (p.1, p.1))]

/-- The characters of a set in every case. -/
def inEveryCase (s : CharSet) : CharSet := s.closedUnder casePairs

/-- The characters of a set, and its letters of ASCII in both cases. -/
def inBothCases (s : CharSet) : CharSet := s.closedUnder asciiCasePairs

end CharSet
end Dealer
