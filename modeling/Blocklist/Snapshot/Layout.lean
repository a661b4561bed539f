import Blocklist.Codebook.Books
import Blocklist.Snapshot.Section
import Blocklist.LittleEndian
/-!
# Snapshots — layout

A header of 64 bytes, a directory with an entry of 24 bytes for each
section, and the sections, each beginning at a multiple of eight.
-/

namespace Blocklist

namespace Layout

/-- The first bytes of every snapshot. -/
def magic : List UInt8 := [0x53, 0x49, 0x56, 0x31]

/-- The version of the format. -/
def version : UInt16 := 1

/-- The flag of a snapshot with a checksum. -/
def hasChecksum : UInt16 := 1

/-- The length of the header. -/
def headerLength : Nat := 64

/-- The offset of the checksum in the header. -/
def checksumOffset : Nat := 28

/-- The length of an entry of the directory. -/
def entryLength : Nat := 24

/-- Sections begin at multiples of this. -/
def alignment : Nat := 8

/-- The least multiple of `alignment` that is not below `offset`, by clearing low bits; `alignment`
has to be a power of two. -/
def align (alignment offset : Nat) : Nat :=
  let stop := offset + alignment - 1
  stop - (stop &&& (alignment - 1))

/-- Whether bytes begin like a snapshot. -/
def hasMagic (data : List UInt8) : Bool := magic.isPrefixOf data

/-- The checksum of a snapshot: over every byte but those of the checksum itself. -/
def checksum (data : List UInt8) : UInt32 :=
  crc32 (data.take checksumOffset ++ data.drop (checksumOffset + 4))

/-- Clearing the low bits rounds down to a multiple. -/
theorem align_eq (offset : Nat) : align alignment offset = (offset + 7) / 8 * 8 := by
  have hlow : (offset + 7) &&& 7 = (offset + 7) % 8 := Nat.and_two_pow_sub_one_eq_mod _ 3
  show offset + 7 - ((offset + 7) &&& 7) = (offset + 7) / 8 * 8
  rw [hlow, Nat.div_mul_self_eq_mod_sub_self]

theorem le_align (offset : Nat) : offset ≤ align alignment offset := by
  rw [align_eq]
  omega

end Layout

end Blocklist
