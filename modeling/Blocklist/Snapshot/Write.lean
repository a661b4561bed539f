import Blocklist.Engine.Basic
import Blocklist.Snapshot.Layout
import Blocklist.Snapshot.Record
/-!
# Snapshots — writing

An engine as bytes. The same engine always gives the same bytes.
-/

namespace Blocklist

/-- Bytes with others in place of those from `offset` on. -/
def Layout.overwrite (offset : Nat) (written bytes : List UInt8) : List UInt8 :=
  bytes.take offset ++ written ++ bytes.drop (offset + written.length)

/-- A section to be written. -/
structure SectionData where
  /-- Which section. -/
  part : Section
  /-- How many filters or buckets it holds. -/
  items : Nat
  /-- Its bytes. -/
  bytes : List UInt8
  deriving DecidableEq, Repr

namespace SectionData

/-- The sections of an engine, in the order of the file. -/
def ofEngine (e : Engine) : List SectionData :=
  let index (part : Section) (i : TokenIndex) : SectionData :=
    ⟨part, i.buckets.length, Record.index i⟩
  [⟨.networkFilters, e.network.size, Record.list Record.network e.network.toList⟩,
    ⟨.cosmeticFilters, e.cosmetic.size, Record.list Record.cosmetic e.cosmetic.toList⟩,
    index .blockIndex e.indexes.blocks,
    index .exceptionIndex e.indexes.exceptions,
    index .redirectIndex e.indexes.redirects,
    index .cspIndex e.indexes.csp,
    index .hostIndex e.indexes.byHost,
    index .genericIndex e.indexes.generic]

/-- The fields of the entry of a section that begins at `offset`. -/
def fields (offset : Nat) (s : SectionData) : List UInt8 :=
  LittleEndian.ofHalf s.part.code
    ++ LittleEndian.ofHalf 0
    ++ LittleEndian.ofWord offset.toUInt32
    ++ LittleEndian.ofWord s.bytes.length.toUInt32
    ++ LittleEndian.ofWord s.items.toUInt32
    ++ LittleEndian.ofWord (crc32 s.bytes)

/-- Where the next section may begin, after one that begins at `offset`. -/
def next (offset : Nat) (s : SectionData) : Nat :=
  Layout.align Layout.alignment (offset + s.bytes.length)

/-- Where sections begin, the first of them at `offset`. -/
def offsets (offset : Nat) : List SectionData → List Nat
  | [] => []
  | s :: sections => offset :: offsets (s.next offset) sections

/-- Where a section after all of them might begin. -/
def stop (offset : Nat) (sections : List SectionData) : Nat := sections.foldl next offset

/-- Writes sections where they begin, and the fields of their entries from `place` on. -/
def fill (place : Nat) : List (Nat × SectionData) → (file : List UInt8) → List UInt8
  | [], file => file
  | (offset, s) :: placed, file =>
    fill (place + Layout.entryLength) placed
      (Layout.overwrite offset s.bytes (Layout.overwrite place (s.fields offset) file))

end SectionData

namespace Snapshot

/-- The header up to its checksum. -/
def headerStart (sections : Nat) : List UInt8 :=
  Layout.magic
    ++ LittleEndian.ofHalf Layout.version
    ++ LittleEndian.ofHalf Layout.hasChecksum
    ++ LittleEndian.ofWord Layout.headerLength.toUInt32
    ++ LittleEndian.ofWord sections.toUInt32
    ++ LittleEndian.ofWord Layout.headerLength.toUInt32
    ++ LittleEndian.ofWord (sections * Layout.entryLength).toUInt32
    ++ LittleEndian.ofWord Codebook.fingerprint

/-- A snapshot of some sections: their places are found first, then all is written over zeros, and
the checksum last. -/
def assemble (sections : List SectionData) : List UInt8 :=
  let first := Layout.align Layout.alignment
    (Layout.headerLength + sections.length * Layout.entryLength)
  let zeros := List.replicate (SectionData.stop first sections) 0
  let placed := (SectionData.offsets first sections).zip sections
  let file := SectionData.fill Layout.headerLength placed
    (Layout.overwrite 0 (headerStart sections.length) zeros)
  Layout.overwrite Layout.checksumOffset (LittleEndian.ofWord (Layout.checksum file)) file

end Snapshot

/-- The snapshot of an engine. -/
def Engine.snapshot (e : Engine) : List UInt8 := Snapshot.assemble (SectionData.ofEngine e)

end Blocklist
