import Blocklist.Codebook.Basic
import Blocklist.Snapshot.Section
import Blocklist.Text.Hexadecimal
/-!
# Snapshots — why one is refused
-/

namespace Blocklist

/-- What is wrong with a record. -/
inductive RecordFault where
  /-- A number of more than 32 bits. -/
  | varintOverflow
  /-- A position that is not greater than the one before. -/
  | notAscending
  /-- A position of more than 32 bits. -/
  | positionOverflow
  /-- A position beyond the last filter. -/
  | positionOutOfRange
  /-- A network filter with parts that there are not. -/
  | networkFields
  /-- A cosmetic filter with options that there are not. -/
  | cosmeticMask
  /-- A cosmetic filter with parts that there are not. -/
  | cosmeticFields
  /-- Two buckets for one token. -/
  | duplicateBucket
  /-- Bytes after the last record. -/
  | trailingBytes
  deriving DecidableEq, Repr

/-- The wording of a fault. -/
def RecordFault.message : RecordFault → String
  | varintOverflow => "varint overflows u32"
  | notAscending => "posting list not strictly ascending"
  | positionOverflow => "posting overflows u32"
  | positionOutOfRange => "posting out of range"
  | networkFields => "unknown network field bits"
  | cosmeticMask => "unknown cosmetic mask bits"
  | cosmeticFields => "unknown cosmetic field bits"
  | duplicateBucket => "duplicate index bucket"
  | trailingBytes => "trailing bytes after section records"

/-- Why bytes are no snapshot. Offsets count from the beginning of the file. -/
inductive SnapshotError where
  /-- There is no room for a header. -/
  | tooShort
  /-- The first bytes are not those of a snapshot. -/
  | invalidMagic
  /-- A version of the format that is not provided for. -/
  | unsupportedVersion (version : UInt16)
  /-- The text was encoded with other codebooks. -/
  | codebookMismatch (stored expected : UInt32)
  /-- A checksum does not agree with the bytes. -/
  | checksumMismatch (stored computed : UInt32)
  /-- A section is not there. -/
  | missingSection (part : Section)
  /-- Bytes that should be there are not. -/
  | truncated (offset : Nat)
  /-- A record is faulty. -/
  | invalidRecord (offset : Nat) (fault : RecordFault)
  /-- Codes that make no text. -/
  | codebook (offset : Nat) (reason : CodebookError)
  deriving DecidableEq, Repr

/-- The wording of an error. -/
def SnapshotError.message : SnapshotError → String
  | tooShort => "Data too short"
  | invalidMagic => "Invalid magic bytes"
  | unsupportedVersion version => "Unsupported version: " ++ toString version.toNat
  | codebookMismatch stored expected =>
    "Codebook fingerprint mismatch: stored=" ++ Text.hexadecimal 8 stored.toNat
      ++ ", expected=" ++ Text.hexadecimal 8 expected.toNat
  | checksumMismatch stored computed =>
    "CRC32 mismatch: stored=" ++ toString stored.toNat
      ++ ", computed=" ++ toString computed.toNat
  | missingSection part => "Missing section: " ++ part.name
  | truncated offset => "Truncated data at byte " ++ toString offset
  | invalidRecord offset fault =>
    "Invalid record at byte " ++ toString offset ++ ": " ++ fault.message
  | codebook offset reason =>
    "Bad codebook data at byte " ++ toString offset ++ ": " ++ reason.message

end Blocklist
