-- The generator: a stream of random words, and whole numbers drawn from it. Each
-- number below a bound is as likely as any other.
import Dealer.Generator.Block

namespace Dealer

/-- A place in the stream of words of a key. -/
structure Generator where
  key : Key
  /-- The number of the block to make next. -/
  number : UInt64
  /-- The words of the last block that are not drawn yet. -/
  pending : List UInt32
  deriving DecidableEq

namespace Generator

/-- The generator at the start of the stream that a seed gives. -/
def ofSeed (seed : UInt64) : Generator := ⟨.ofSeed seed, 0, []⟩

/-- Draws a word of 32 bits. -/
def next32 (g : Generator) : UInt32 × Generator :=
  match g.pending with
  | w :: rest => (w, { g with pending := rest })
  | [] =>
    let words := g.key.block g.number
    (words[0], ⟨g.key, g.number + 1, words.toList.tail⟩)

/-- Draws a word of 64 bits: two of 32 bits, the lower one first. -/
def next64 (g : Generator) : UInt64 × Generator :=
  let (low, g) := g.next32
  let (high, g) := g.next32
  (high.toUInt64 <<< 32 ||| low.toUInt64, g)

/-- The width of the words that a number is drawn from. -/
inductive Width
  | w32
  | w64
  deriving DecidableEq, Repr

/-- The number of different words of a width. -/
def Width.size : Width → Nat
  | .w32 => 4294967296
  | .w64 => 18446744073709551616

/-- Draws a word of some width. -/
def next (g : Generator) : Width → Nat × Generator
  | .w32 => let (w, g) := g.next32; (w.toNat, g)
  | .w64 => let (w, g) := g.next64; (w.toNat, g)

theorem next_lt (g : Generator) (width : Width) : (g.next width).1 < width.size := by
  cases width
  · exact g.next32.1.toNat_lt
  · exact g.next64.1.toNat_lt

/-- How often a word may be refused. Less than half of the words are refused, so that the last try
is never seen. -/
def patience : Nat := 1000

/-- Draws words, and multiplies each by the bound, until the lower half of a product is at most
`zone`. The upper half of the product is the number drawn. The last try always counts. -/
def drawWithin (width : Width) (bound zone : Nat) : Nat → Generator → Nat × Generator
  | 0, g =>
    let (w, g) := g.next width
    (w * bound / width.size, g)
  | tries + 1, g =>
    let (w, g) := g.next width
    let product := w * bound
    if product % width.size ≤ zone then (product / width.size, g)
    else drawWithin width bound zone tries g

theorem drawWithin_lt (width : Width) {bound : Nat} (h : 0 < bound) (zone tries : Nat)
    (g : Generator) : (drawWithin width bound zone tries g).1 < bound := by
  have small (g : Generator) : (g.next width).1 * bound / width.size < bound :=
    Nat.div_lt_of_lt_mul (Nat.mul_lt_mul_of_pos_right (next_lt g width) h)
  induction tries generalizing g with
  | zero => exact small g
  | succ tries ih =>
    simp only [drawWithin]
    split
    · exact small g
    · exact ih _

/-- Draws a number below a bound. A lower half counts when it is below the largest multiple of the
bound by a power of two that is in the width. -/
def below (width : Width) (bound : Nat) (g : Generator) : Nat × Generator :=
  let zone := bound <<< (Nat.log2 width.size - 1 - Nat.log2 bound) - 1
  drawWithin width bound zone patience g

/-- Draws a number below a bound. A lower half counts when it is below the largest multiple of the
bound that is in the width. -/
def belowFine (width : Width) (bound : Nat) (g : Generator) : Nat × Generator :=
  let zone := width.size - 1 - (width.size - bound) % bound
  drawWithin width bound zone patience g

theorem below_lt (width : Width) {bound : Nat} (h : 0 < bound) (g : Generator) :
    (below width bound g).1 < bound := drawWithin_lt width h _ _ g

theorem belowFine_lt (width : Width) {bound : Nat} (h : 0 < bound) (g : Generator) :
    (belowFine width bound g).1 < bound := drawWithin_lt width h _ _ g

/-- Picks a place in a list of so many items. An empty list has none, and nothing is drawn. -/
def pick (n : Nat) (g : Generator) : Option Nat × Generator :=
  if n = 0 then (none, g)
  else
    let (i, g) := below .w64 n g
    (some i, g)

theorem pick_lt {n i : Nat} {g : Generator} (h : (pick n g).1 = some i) : i < n := by
  unfold pick at h
  split at h
  · simp at h
  · simp only [Option.some.injEq] at h
    rw [← h]
    exact below_lt .w64 (by omega) g

end Generator
end Dealer
