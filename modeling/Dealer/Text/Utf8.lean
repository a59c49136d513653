-- Characters as bytes in UTF-8, and the runs of bytes that make up a range of
-- characters.
import Dealer.Text.CharSet

namespace Dealer

/-- The bytes of a character. -/
def utf8Bytes (c : Char) : List UInt8 := String.utf8EncodeChar c

/-- The number of bytes of the character with a code point. -/
def utf8Width (n : Nat) : Nat :=
  if n ≤ 0x7F then 1 else if n ≤ 0x7FF then 2 else if n ≤ 0xFFFF then 3 else 4

/-- The bytes from one to another. -/
structure ByteRange where
  first : UInt8
  last : UInt8
  deriving DecidableEq, Hashable

/-! ## Ranges of characters as ranges of bytes -/

/-- The pieces of a range of code points whose characters have equally many bytes. -/
def byWidth (r : Nat × Nat) : List (Nat × Nat) :=
  [(0, 0x7F), (0x80, 0x7FF), (0x800, 0xFFFF), (0x10000, 0x10FFFF)].filterMap fun w =>
    if max r.1 w.1 ≤ min r.2 w.2 then some (max r.1 w.1, min r.2 w.2) else none

/-- Cuts a range of code points into blocks of the size that the last bytes count through: what
stands before the first whole block, the whole blocks, and what is left behind them. The whole
blocks are cut on with the next of the block sizes. -/
def byBlock : List Nat → Nat × Nat → List (Nat × Nat)
  | [], r => [r]
  | size :: sizes, (first, last) =>
    if first / size = last / size then [(first, last)]
    else
      let wholeFrom := (first + size - 1) / size * size
      let wholeTo := (last + 1) / size * size
      (if first < wholeFrom then [(first, wholeFrom - 1)] else [])
        ++ (if wholeFrom < wholeTo then byBlock sizes (wholeFrom, wholeTo - 1) else [])
        ++ if wholeTo ≤ last then [(wholeTo, last)] else []

/-- The sequences of byte ranges that make up a range of characters, in order. -/
def byteSequences (r : Nat × Nat) : List (List ByteRange) :=
  (byWidth r).flatMap fun r =>
    (if r.2 ≤ 0x7F then [r] else byBlock [0x40, 0x1000, 0x40000] r).map fun (first, last) =>
      List.zipWith ByteRange.mk (utf8Bytes (Char.ofNat first)) (utf8Bytes (Char.ofNat last))

/-- The sequences of byte ranges that make up a set of characters, in order. -/
def CharSet.byteSequences (s : CharSet) : List (List ByteRange) :=
  s.ranges.flatMap Dealer.byteSequences

end Dealer
