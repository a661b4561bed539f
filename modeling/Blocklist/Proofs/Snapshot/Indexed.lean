import Blocklist.Proofs.Snapshot.Access
import Blocklist.Snapshot.Load
/-!
# Snapshots — reading by index

The loading of snapshots with each access written out: a section is read
through a window with a position, and the header and the directory at their
places in the file. That none of these accesses is beyond bounds, and that
the outcome is the same, is shown in `Blocklist.Proofs.Snapshot.Bounds`.
-/

namespace Blocklist

/-! ## Sections -/

/-- The bytes of a section, and how far they have been read. -/
structure Window where
  /-- All bytes of the section. -/
  bytes : List UInt8
  /-- Where in the file the section begins. -/
  base : Nat
  /-- How many of the bytes have been read. -/
  position : Nat
  deriving DecidableEq, Repr

/-- A reading of a section, which moves the position or fails. -/
abbrev IndexedReader := StateT Window (Guarded SnapshotError)

namespace IndexedReader

/-- Where the next byte is. -/
def here : IndexedReader Nat := do
  let w ← get
  return w.base + w.position

/-- How many bytes are left. -/
def remaining : IndexedReader Nat := do
  let w ← get
  Access.sub w.bytes.length w.position

/-- The next `n` bytes. -/
def bytes (n : Nat) : IndexedReader (List UInt8) := do
  let w ← get
  if w.bytes.length < w.position + n then throw (.truncated (w.base + w.position))
  let part ← Access.slice w.position (w.position + n) w.bytes
  set { w with position := w.position + n }
  return part

/-- The next byte. -/
def byte : IndexedReader UInt8 := do Access.byteAt 0 (← bytes 1)

/-- A number in the next four bytes. -/
def word : IndexedReader UInt32 := do Access.wordAt 0 (← bytes 4)

/-- What `read` reads, `n` times over. -/
def repeated {α : Type} (read : IndexedReader α) : (n : Nat) → IndexedReader (List α)
  | 0 => return []
  | n + 1 => do
    let first ← read
    return first :: (← repeated read n)

/-- Fails unless every byte has been read. -/
def finish : IndexedReader Unit := do
  let w ← get
  if w.position < w.bytes.length then
    throw (.invalidRecord (w.base + w.position) .trailingBytes)

/-- A number of at most `allowance` bytes more. The next one counts from the bit `shift` on and is
added to `sum`; a byte there is at the bit 28 may be no more than 15. -/
def varintLoop (start : Nat) : (allowance shift sum : Nat) → IndexedReader Nat
  | 0, _, _ => throwThe Fault .sixthByte
  | allowance + 1, shift, sum => do
    let b ← byte
    if shift == 28 && 15 < b then throw (.invalidRecord start .varintOverflow)
    let sum := sum + (b.toNat % 128) <<< shift
    if b < 128 then return sum
    varintLoop start allowance (shift + 7) sum

/-- A number below 2^32, of five bytes at most. -/
def varint : IndexedReader Nat := do varintLoop (← here) 5 0 0

/-- A text. -/
def text (book : Codebook) : IndexedReader String := do
  let length ← varint
  let offset ← here
  let codes ← bytes length
  match ← (Guarded.decode book codes).run with
  | .ok s => return s
  | .error reason => throw (.codebook offset reason)

/-- A text, where there is one. -/
def text? (book : Codebook) (present : Bool) : IndexedReader (Option String) :=
  if present then some <$> text book else return none

/-- The positions at the ends of `n` steps; each is greater than the one before and below
`limit`. -/
def positionsFrom (limit : Nat) : (previous : Option Nat) → (n : Nat) → IndexedReader (List Nat)
  | _, 0 => return []
  | previous, n + 1 => do
    let offset ← here
    let step ← varint
    if previous.isSome && step == 0 then throw (.invalidRecord offset .notAscending)
    let position := previous.getD 0 + step
    if 4294967296 ≤ position then throw (.invalidRecord offset .positionOverflow)
    if limit ≤ position then throw (.invalidRecord offset .positionOutOfRange)
    return position :: (← positionsFrom limit (some position) n)

/-- A row of positions below `limit`. -/
def postings (limit : Nat) : IndexedReader (List Nat) := do
  let count ← varint
  if (← remaining) < count then throw (.truncated (← here))
  positionsFrom limit none count

/-- A number of records. -/
def count : IndexedReader Nat := do
  let offset ← here
  let count ← varint
  if (← remaining) < count then throw (.truncated offset)
  return count

/-- A byte of which the lowest `count` bits alone may be set. -/
def bits (count : UInt8) (fault : RecordFault) : IndexedReader UInt8 := do
  let offset ← here
  let set ← byte
  if set >>> count != 0 then throw (.invalidRecord offset fault)
  return set

/-- A network filter. -/
def network : IndexedReader NetworkFilter := do
  let mask : NetworkMask := ⟨← word⟩
  let present ← bits 5 .networkFields
  let pattern ← text? .pattern (hasPart present 0)
  let domains ← text? .raw (hasPart present 1)
  let denyallow ← text? .raw (hasPart present 2)
  let value ← text? (NetworkFilter.valueBook mask) (hasPart present 3)
  let rawLine ← text? .raw (hasPart present 4)
  return {
    mask := mask
    pattern := pattern.getD ""
    domains := domains.map HostList.mk
    denyallow := denyallow.map HostList.mk
    value := value
    rawLine := rawLine }

/-- A cosmetic filter. -/
def cosmetic : IndexedReader CosmeticFilter := do
  let mask ← bits 3 .cosmeticMask
  let present ← bits 2 .cosmeticFields
  let selector ← text .selector
  let hostnames ← text? .raw (hasPart present 0)
  let rawLine ← text? .raw (hasPart present 1)
  return {
    mask := ⟨mask⟩
    selector := selector
    hostnames := hostnames.map HostList.mk
    rawLine := rawLine }

/-- Buckets with positions below `limit`, for tokens that differ from each other and from those of
the buckets `seen`. -/
def bucketsFrom (limit : Nat) : (seen : List Bucket) → (n : Nat) → IndexedReader (List Bucket)
  | _, 0 => return []
  | seen, n + 1 => do
    let offset ← here
    let token ← word
    let bucket : Bucket := ⟨token, ← postings limit⟩
    if seen.any (·.token == token) then throw (.invalidRecord offset .duplicateBucket)
    return bucket :: (← bucketsFrom limit (bucket :: seen) n)

/-- An index with positions below `limit`. -/
def index (limit : Nat) : IndexedReader TokenIndex := do
  let buckets ← bucketsFrom limit [] (← count)
  let catchAll ← postings limit
  finish
  return ⟨buckets.mergeSort fun a b => a.token ≤ b.token, catchAll⟩

/-- Records up to the end, with their number in front. -/
def list {α : Type} (read : IndexedReader α) : IndexedReader (List α) := do
  let items ← repeated read (← count)
  finish
  return items

end IndexedReader

/-! ## Files -/

namespace Indexed

/-- The checksum of a file. -/
def checksum (data : List UInt8) : Except Fault UInt32 := do
  let front ← Access.slice 0 Layout.checksumOffset data
  let back ← Access.slice (Layout.checksumOffset + 4) data.length data
  return crc32 (front ++ back)

/-- The header of a file. -/
def header (data : List UInt8) : Guarded SnapshotError Header := do
  if data.length < Layout.headerLength then throw .tooShort
  let first ← Access.slice 0 Layout.magic.length data
  if first != Layout.magic then throw .invalidMagic
  let version ← Access.halfAt 4 data
  if version != Layout.version then throw (.unsupportedVersion version)
  let fingerprint ← Access.wordAt 24 data
  if fingerprint != Codebook.fingerprint then
    throw (.codebookMismatch fingerprint Codebook.fingerprint)
  let flags ← Access.halfAt 6 data
  let stored ← Access.wordAt Layout.checksumOffset data
  if flags &&& Layout.hasChecksum != 0 then
    let computed ← checksum data
    if stored != computed then throw (.checksumMismatch stored computed)
  let sections ← Access.wordAt 12 data
  let directory ← Access.wordAt 16 data
  return ⟨version, flags, sections.toNat, directory.toNat, fingerprint, stored⟩

/-- The entry of the directory at a place; none for a section of an unknown kind. -/
def entry (data : List UInt8) (place : Nat) : Guarded SnapshotError (Option SectionInfo) := do
  match Section.ofCode? (← Access.halfAt place data) with
  | none => return none
  | some part =>
    let flags ← Access.halfAt (place + 2) data
    let offset ← Access.wordAt (place + 4) data
    let length ← Access.wordAt (place + 8) data
    let items ← Access.wordAt (place + 12) data
    let stored ← Access.wordAt (place + 16) data
    let stop := offset.toNat + length.toNat
    if data.length < stop then throw (.truncated place)
    let computed := crc32 (← Access.slice offset.toNat stop data)
    if stored != computed then throw (.checksumMismatch stored computed)
    return some ⟨part, flags, offset.toNat, length.toNat, items, stored⟩

/-- Checks header and directory. -/
def load (data : List UInt8) : Guarded SnapshotError Snapshot := do
  let header ← header data
  let stop := header.directory + header.sections * Layout.entryLength
  if data.length < stop then throw (.truncated header.directory)
  let places := (List.range header.sections).map fun n => header.directory + n * Layout.entryLength
  let entries ← places.mapM (entry data)
  return ⟨data, header, entries.filterMap fun entry => entry⟩

/-- Reads a section from its first byte. -/
def readSection {α : Type} (s : Snapshot) (part : Section) (reader : IndexedReader α) :
    Guarded SnapshotError α := do
  match s.info? part with
  | none => throw (.missingSection part)
  | some info =>
    let bytes ← Access.slice info.offset (info.offset + info.length) s.data
    let result ← reader.run ⟨bytes, info.offset, 0⟩
    return result.1

/-- The network filters. -/
def network (s : Snapshot) : Guarded SnapshotError (List NetworkFilter) :=
  readSection s .networkFilters (IndexedReader.list IndexedReader.network)

/-- The cosmetic filters. -/
def cosmetic (s : Snapshot) : Guarded SnapshotError (List CosmeticFilter) :=
  readSection s .cosmeticFilters (IndexedReader.list IndexedReader.cosmetic)

/-- An index of positions below `limit`. -/
def index (s : Snapshot) (part : Section) (limit : Nat) : Guarded SnapshotError TokenIndex :=
  readSection s part (IndexedReader.index limit)

/-- The engine of a snapshot. -/
def engine (s : Snapshot) : Guarded SnapshotError Engine := do
  let network ← network s
  let cosmetic ← cosmetic s
  let blocks ← index s .blockIndex network.length
  let exceptions ← index s .exceptionIndex network.length
  let redirects ← index s .redirectIndex network.length
  let csp ← index s .cspIndex network.length
  let byHost ← index s .hostIndex cosmetic.length
  let generic ← index s .genericIndex cosmetic.length
  return ⟨network.toArray, cosmetic.toArray,
    ⟨blocks, exceptions, redirects, csp, byHost, generic⟩⟩

/-- The engine whose snapshot a file is. -/
def ofSnapshot (data : List UInt8) : Guarded SnapshotError Engine := do
  engine (← load data)

end Indexed

end Blocklist
