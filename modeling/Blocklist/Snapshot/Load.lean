import Blocklist.Engine.Basic
import Blocklist.Snapshot.Layout
import Blocklist.Snapshot.Record
/-!
# Snapshots — loading

Header, checksum and directory are checked first. Then every section is read
by itself, from the bytes that its entry names.
-/

namespace Blocklist

/-- The header of a snapshot. -/
structure Header where
  /-- The version of the format. -/
  version : UInt16
  /-- The flags. -/
  flags : UInt16
  /-- How many entries the directory has. -/
  sections : Nat
  /-- Where the directory begins. -/
  directory : Nat
  /-- The fingerprint of the codebooks. -/
  fingerprint : UInt32
  /-- The checksum of the file. -/
  checksum : UInt32
  deriving DecidableEq, Repr

/-- An entry of the directory. -/
structure SectionInfo where
  /-- Which section. -/
  part : Section
  /-- The flags. -/
  flags : UInt16
  /-- Where the section begins. -/
  offset : Nat
  /-- How many bytes it has. -/
  length : Nat
  /-- How many filters or buckets it holds. -/
  items : UInt32
  /-- The checksum of its bytes. -/
  checksum : UInt32
  deriving DecidableEq, Repr

/-- A snapshot whose header and directory have been checked. -/
structure Snapshot where
  /-- All bytes. -/
  data : List UInt8
  /-- The header. -/
  header : Header
  /-- The entries of known sections, in the order of the directory. -/
  sections : List SectionInfo
  deriving DecidableEq, Repr

namespace Header

/-- The header that bytes begin with. -/
def ofBytes (data : List UInt8) : Header where
  version := LittleEndian.halfAt 4 data
  flags := LittleEndian.halfAt 6 data
  sections := (LittleEndian.wordAt 12 data).toNat
  directory := (LittleEndian.wordAt 16 data).toNat
  fingerprint := LittleEndian.wordAt 24 data
  checksum := LittleEndian.wordAt Layout.checksumOffset data

/-- The header of a snapshot; version, codebooks and checksum have to be right. -/
def read (data : List UInt8) : Except SnapshotError Header := do
  if data.length < Layout.headerLength then throw .tooShort
  if !Layout.hasMagic data then throw .invalidMagic
  let h := ofBytes data
  if h.version != Layout.version then throw (.unsupportedVersion h.version)
  if h.fingerprint != Codebook.fingerprint then
    throw (.codebookMismatch h.fingerprint Codebook.fingerprint)
  if h.flags &&& Layout.hasChecksum != 0 then
    let computed := Layout.checksum data
    if h.checksum != computed then throw (.checksumMismatch h.checksum computed)
  return h

end Header

namespace SectionInfo

/-- The bytes of the section. -/
def bytes (i : SectionInfo) (data : List UInt8) : List UInt8 :=
  (data.drop i.offset).take i.length

/-- The entry at an offset; none for a section of an unknown kind. -/
def ofBytes? (data : List UInt8) (offset : Nat) : Option SectionInfo :=
  (Section.ofCode? (LittleEndian.halfAt offset data)).map fun part => {
    part := part
    flags := LittleEndian.halfAt (offset + 2) data
    offset := (LittleEndian.wordAt (offset + 4) data).toNat
    length := (LittleEndian.wordAt (offset + 8) data).toNat
    items := LittleEndian.wordAt (offset + 12) data
    checksum := LittleEndian.wordAt (offset + 16) data }

/-- The entry at an offset; its section has to lie in the file and to have the checksum it names. -/
def read (data : List UInt8) (offset : Nat) : Except SnapshotError (Option SectionInfo) := do
  match ofBytes? data offset with
  | none => return none
  | some i =>
    if data.length < i.offset + i.length then throw (.truncated offset)
    let computed := crc32 (i.bytes data)
    if i.checksum != computed then throw (.checksumMismatch i.checksum computed)
    return some i

end SectionInfo

namespace Snapshot

/-- Checks header and directory. -/
def load (data : List UInt8) : Except SnapshotError Snapshot := do
  let header ← Header.read data
  if data.length < header.directory + header.sections * Layout.entryLength then
    throw (.truncated header.directory)
  let offsets := (List.range header.sections).map fun n =>
    header.directory + n * Layout.entryLength
  let entries ← offsets.mapM (SectionInfo.read data)
  return ⟨data, header, entries.filterMap fun entry => entry⟩

/-- The entry of a section; of several, the last. -/
def info? (s : Snapshot) (part : Section) : Option SectionInfo :=
  s.sections.reverse.find? (·.part == part)

/-- Reads a section from its first byte. -/
def readSection {α : Type} (s : Snapshot) (part : Section) (reader : Reader α) :
    Except SnapshotError α :=
  match s.info? part with
  | none => .error (.missingSection part)
  | some info => (reader.run ⟨info.offset, info.bytes s.data⟩).map Prod.fst

/-- The network filters. -/
def network (s : Snapshot) : Except SnapshotError (List NetworkFilter) :=
  s.readSection .networkFilters (Reader.list Reader.network)

/-- The cosmetic filters. -/
def cosmetic (s : Snapshot) : Except SnapshotError (List CosmeticFilter) :=
  s.readSection .cosmeticFilters (Reader.list Reader.cosmetic)

/-- An index of positions below `limit`. -/
def index (s : Snapshot) (part : Section) (limit : Nat) : Except SnapshotError TokenIndex :=
  s.readSection part (Reader.index limit)

/-- The engine of a snapshot. -/
def engine (s : Snapshot) : Except SnapshotError Engine := do
  let network ← s.network
  let cosmetic ← s.cosmetic
  let blocks ← s.index .blockIndex network.length
  let exceptions ← s.index .exceptionIndex network.length
  let redirects ← s.index .redirectIndex network.length
  let csp ← s.index .cspIndex network.length
  let byHost ← s.index .hostIndex cosmetic.length
  let generic ← s.index .genericIndex cosmetic.length
  return ⟨network.toArray, cosmetic.toArray,
    ⟨blocks, exceptions, redirects, csp, byHost, generic⟩⟩

end Snapshot

/-- The engine whose snapshot these bytes are. -/
def Engine.ofSnapshot (data : List UInt8) : Except SnapshotError Engine := do
  (← Snapshot.load data).engine

end Blocklist
