/-!
# The ChaCha12 key stream

Twelve rounds of ChaCha under a key of eight words, with a block counter of 64 bits and a nonce of
zero. The words of the blocks, one block after the other, form a stream; `draw` is its division into
64-bit values of two words each, the low word first. A stream is a function of its key and of an
index, so there is no state besides the index of the next draw. The counter wraps around, which
makes the stream repeat after `period` draws.
-/

namespace Funge.ChaCha

/-- A key of 256 bits. -/
abbrev Key := Vector UInt32 8

/-- A block of sixteen words. -/
abbrev Block := Vector UInt32 16

/-- Rotate a word to the left. -/
def rotateLeft (x : UInt32) (count : UInt32) : UInt32 := (x <<< count) ||| (x >>> (32 - count))

/-- Mix four words of a block. -/
def quarterRound (a b c d : Fin 16) (s : Block) : Block :=
  let s := s.set a (s[a] + s[b])
  let s := s.set d (rotateLeft (s[d] ^^^ s[a]) 16)
  let s := s.set c (s[c] + s[d])
  let s := s.set b (rotateLeft (s[b] ^^^ s[c]) 12)
  let s := s.set a (s[a] + s[b])
  let s := s.set d (rotateLeft (s[d] ^^^ s[a]) 8)
  let s := s.set c (s[c] + s[d])
  s.set b (rotateLeft (s[b] ^^^ s[c]) 7)

/-- Mix the columns, then the diagonals. -/
def doubleRound (s : Block) : Block :=
  let s := quarterRound 0 4 8 12 s
  let s := quarterRound 1 5 9 13 s
  let s := quarterRound 2 6 10 14 s
  let s := quarterRound 3 7 11 15 s
  let s := quarterRound 0 5 10 15 s
  let s := quarterRound 1 6 11 12 s
  let s := quarterRound 2 7 8 13 s
  quarterRound 3 4 9 14 s

/-- The block before mixing: four constant words, the key, the counter and the nonce. -/
def initial (key : Key) (counter : Nat) : Block :=
  let constants : Vector UInt32 4 := #v[0x61707865, 0x3320646e, 0x79622d32, 0x6b206574]
  let place : Vector UInt32 4 := #v[UInt32.ofNat counter, UInt32.ofNat (counter / UInt32.size), 0, 0]
  constants ++ key ++ place

/-- The block with a number: twelve rounds, added to what they started from. -/
def block (key : Key) (counter : Nat) : Block :=
  let start := initial key counter
  let mixed := Nat.repeat doubleRound 6 start
  Vector.zipWith (· + ·) mixed start

/-- How many draws of 64 bits one block holds. -/
def drawsPerBlock : Nat := 8

/-- The 64-bit value at an index of the stream. -/
def draw (key : Key) (index : Nat) : UInt64 :=
  let words := (block key (index / drawsPerBlock)).toList.drop (2 * (index % drawsPerBlock))
  match words with
  | low :: high :: _ => low.toUInt64 ||| (high.toUInt64 <<< 32)
  | _ => 0

/-- After how many draws the stream repeats. -/
def period : Nat := drawsPerBlock * UInt64.size

/-! ### Keys from short seeds -/

/-- One step of a congruential sequence. -/
def seedStep (s : UInt64) : UInt64 := s * 6364136223846793005 + 11634580027462260723

/-- The key word a state of the sequence gives: some of its bits, rotated by others. -/
def seedWord (s : UInt64) : UInt32 :=
  let x := (((s >>> 18) ^^^ s) >>> 27).toUInt32
  let count := (s >>> 59).toUInt32
  (x >>> count) ||| (x <<< (32 - count))

/-- The key for a seed: the words of the eight states after it. -/
def keyOfSeed (seed : UInt64) : Key :=
  Vector.ofFn fun i : Fin 8 => seedWord (Nat.repeat seedStep (i.val + 1) seed)

end Funge.ChaCha
