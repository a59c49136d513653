-- Blocks of random words. A block is made from a key and the block's number by
-- twenty rounds of the ChaCha cipher, and equal keys make equal blocks.

namespace Dealer

/-- Sixteen words: what the cipher works on, and what a block holds. -/
abbrev Words := Vector UInt32 16

/-- A key of eight words. -/
abbrev Key := Vector UInt32 8

/-- Rotates a word to the left. -/
def rotateLeft (x n : UInt32) : UInt32 := (x <<< n) ||| (x >>> (32 - n))

namespace Words

/-- A quarter round on four of the words. -/
def quarterRound (w : Words) (a b c d : Fin 16) : Words :=
  let w := w.set a (w[a] + w[b])
  let w := w.set d (rotateLeft (w[d] ^^^ w[a]) 16)
  let w := w.set c (w[c] + w[d])
  let w := w.set b (rotateLeft (w[b] ^^^ w[c]) 12)
  let w := w.set a (w[a] + w[b])
  let w := w.set d (rotateLeft (w[d] ^^^ w[a]) 8)
  let w := w.set c (w[c] + w[d])
  w.set b (rotateLeft (w[b] ^^^ w[c]) 7)

/-- Two rounds: one down the columns of the square of words, one along its diagonals. -/
def doubleRound (w : Words) : Words :=
  w |>.quarterRound 0 4 8 12 |>.quarterRound 1 5 9 13 |>.quarterRound 2 6 10 14
    |>.quarterRound 3 7 11 15 |>.quarterRound 0 5 10 15 |>.quarterRound 1 6 11 12
    |>.quarterRound 2 7 8 13 |>.quarterRound 3 4 9 14

end Words

namespace Key

/-- The words that a block is made from: four fixed words, the key and the number of the block. -/
def start (key : Key) (number : UInt64) : Words :=
  #v[0x61707865, 0x3320646e, 0x79622d32, 0x6b206574,
    key[0], key[1], key[2], key[3], key[4], key[5], key[6], key[7],
    number.toUInt32, (number >>> 32).toUInt32, 0, 0]

/-- The block with this number. -/
def block (key : Key) (number : UInt64) : Words :=
  let start := key.start number
  (Nat.repeat Words.doubleRound 10 start).zipWith (· + ·) start

/-- One word of a key, and the seed for the next: the state of a linear congruence, permuted. -/
def seedWord (seed : UInt64) : UInt32 × UInt64 :=
  let s := seed * 6364136223846793005 + 11634580027462260723
  let x := (((s >>> 18) ^^^ s) >>> 27).toUInt32
  let r := (s >>> 59).toUInt32
  (if r = 0 then x else (x >>> r) ||| (x <<< (32 - r)), s)

/-- The words that a seed gives one after the other. -/
def seedWords : Nat → UInt64 → List UInt32
  | 0, _ => []
  | n + 1, seed =>
    let (w, seed) := seedWord seed
    w :: seedWords n seed

theorem length_seedWords (n : Nat) (seed : UInt64) : (seedWords n seed).length = n := by
  induction n generalizing seed with
  | zero => rfl
  | succ n ih => simp [seedWords, ih]

/-- The key that a seed gives. -/
def ofSeed (seed : UInt64) : Key := ⟨(seedWords 8 seed).toArray, by simp [length_seedWords]⟩

end Key
end Dealer
