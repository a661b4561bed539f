import Blocklist.Snapshot.Cursor
/-!
# Snapshots — numbers of varying length

A number is written in groups of seven bits, lowest first, and every byte
but the last has its high bit set. Ascending positions are written as the
steps between them.
-/

namespace Blocklist

/-! ## Writing -/

/-- The bytes of a number. -/
def varint (n : Nat) : List UInt8 :=
  if n < 128 then [n.toUInt8] else (n % 128 + 128).toUInt8 :: varint (n / 128)
termination_by n

/-- The steps from `previous` to each position in turn, modulo 2^32. -/
def steps (previous : UInt32) : List UInt32 → List UInt32
  | [] => []
  | position :: positions => (position - previous) :: steps position positions

/-- The bytes of a row of positions: their number, and the step to each from the one before. -/
def postingBytes (positions : List UInt32) : List UInt8 :=
  varint positions.length.toUInt32.toNat
    ++ (steps 0 positions).flatMap fun step => varint step.toNat

/-! ## Reading -/

namespace Reader

/-- A number of at most `more + 1` bytes, the last of which may be no more than 15; the first byte
of the whole is at `start`. -/
def varintFrom (start : Nat) : (more : Nat) → Reader Nat
  | 0 => do
    let b ← byte
    if 15 < b then throw (.invalidRecord start .varintOverflow)
    return b.toNat
  | more + 1 => do
    let b ← byte
    if b < 128 then return b.toNat
    return b.toNat % 128 + 128 * (← varintFrom start more)

/-- A number below 2^32. -/
def varint : Reader Nat := do varintFrom (← here) 4

/-- The positions at the ends of `n` steps; each is greater than the one before and below
`limit`. -/
def positionsFrom (limit : Nat) : (previous : Option Nat) → (n : Nat) → Reader (List Nat)
  | _, 0 => return []
  | previous, n + 1 => do
    let offset ← here
    let step ← varint
    if previous.isSome && step == 0 then throw (.invalidRecord offset .notAscending)
    let position := previous.getD 0 + step
    if 4294967296 ≤ position then throw (.invalidRecord offset .positionOverflow)
    if limit ≤ position then throw (.invalidRecord offset .positionOutOfRange)
    return position :: (← positionsFrom limit (some position) n)

/-- A row of positions below `limit`. Each takes a byte at least, so a number of them beyond the
bytes that are left is refused at once. -/
def postings (limit : Nat) : Reader (List Nat) := do
  let count ← varint
  if (← remaining) < count then throw (.truncated (← here))
  positionsFrom limit none count

/-- A number of records. Each takes a byte at least, so a number beyond the bytes that are left is
refused at once. -/
def count : Reader Nat := do
  let offset ← here
  let count ← varint
  if (← remaining) < count then throw (.truncated offset)
  return count

end Reader

end Blocklist
