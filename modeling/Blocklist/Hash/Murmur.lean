import Blocklist.LittleEndian
import Blocklist.Text.Utf8
/-!
# Hashes — Murmur3, 32 bits

Tokens and host names are known to the indexes by this hash. A token never
hashes to zero, so zero is free to mean that there is none.
-/

namespace Blocklist

namespace Murmur

open LittleEndian (word)

/-- Bits shifted out on the left come back on the right. -/
def rotateLeft (x n : UInt32) : UInt32 := (x <<< n) ||| (x >>> (32 - n))

/-- Spreads a word before it is absorbed. -/
def scramble (k : UInt32) : UInt32 := rotateLeft (k * 0xcc9e2d51) 15 * 0x1b873593

/-- The state after one whole word. -/
def absorb (h k : UInt32) : UInt32 := rotateLeft (h ^^^ scramble k) 13 * 5 + 0xe6546b64

/-- The state after all bytes: whole words in turn, then the one to three bytes left over. -/
def absorbAll (h : UInt32) : List UInt8 → UInt32
  | a :: b :: c :: d :: rest => absorbAll (absorb h (word a b c d)) rest
  | [a, b, c] => h ^^^ scramble (word a b c 0)
  | [a, b] => h ^^^ scramble (word a b 0 0)
  | [a] => h ^^^ scramble (word a 0 0 0)
  | [] => h

/-- Lets every bit of the state reach every other. -/
def finish (h : UInt32) : UInt32 :=
  let h := (h ^^^ (h >>> 16)) * 0x85ebca6b
  let h := (h ^^^ (h >>> 13)) * 0xc2b2ae35
  h ^^^ (h >>> 16)

/-- Murmur3 of some bytes under a seed. -/
def hash (seed : UInt32) (bytes : List UInt8) : UInt32 :=
  finish (absorbAll seed bytes ^^^ bytes.length.toUInt32)

end Murmur

/-- The seed of token hashes. -/
def tokenSeed : UInt32 := 0x811c9dc5

/-- The hash of a token's bytes, with zero moved out of the way. -/
def hashToken (bytes : List UInt8) : UInt32 :=
  let h := Murmur.hash tokenSeed bytes
  if h = 0 then 1 else h

/-- The hash of a token or host name given as text. -/
def hashText (s : String) : UInt32 := hashToken (Text.utf8 s)

theorem hashToken_ne_zero (bytes : List UInt8) : hashToken bytes ≠ 0 := by
  unfold hashToken
  dsimp only
  split
  · decide
  · assumption

end Blocklist
