/-!
# Hashes — CRC-32

The checksum of snapshots, a byte at a time: the low byte of the state
selects one of 256 precomputed remainders.
-/

namespace Blocklist

namespace Crc32

/-- One bit of polynomial division: the reflected polynomial is subtracted where the bit is set. -/
def bitStep (c : UInt32) : UInt32 :=
  if c &&& 1 = 0 then c >>> 1 else (c >>> 1) ^^^ 0xedb88320

/-- `n` bits of polynomial division. -/
def bitSteps : Nat → UInt32 → UInt32
  | 0, c => c
  | n + 1, c => bitSteps n (bitStep c)

/-- What a byte alone leaves behind after eight bits, for each byte. -/
def remainders : Vector UInt32 256 := Vector.ofFn fun i => bitSteps 8 i.val.toUInt32

/-- The state after one more byte. -/
def byteStep (crc : UInt32) (byte : UInt8) : UInt32 :=
  remainders.get ⟨(crc ^^^ byte.toUInt32).toNat % 256, Nat.mod_lt _ (by decide)⟩ ^^^ (crc >>> 8)

end Crc32

/-- CRC-32 of several parts in turn (IEEE 802.3), the state carried from one to the next. -/
def crc32Parts (parts : List (List UInt8)) : UInt32 :=
  parts.foldl (fun crc part => part.foldl Crc32.byteStep crc) 0xffffffff ^^^ 0xffffffff

/-- CRC-32 of some bytes. -/
def crc32 (bytes : List UInt8) : UInt32 := crc32Parts [bytes]

theorem crc32_eq (bytes : List UInt8) :
    crc32 bytes = bytes.foldl Crc32.byteStep 0xffffffff ^^^ 0xffffffff :=
  rfl

end Blocklist
