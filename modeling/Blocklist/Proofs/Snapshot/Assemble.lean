import Mathlib.Data.List.Nodup
import Blocklist.Proofs.Snapshot.Load
import Blocklist.Proofs.Snapshot.Reads
import Blocklist.Proofs.Snapshot.Written
/-!
# Snapshots — where everything is

A snapshot that was put together of some sections is loaded with a directory
that tells where each of them is (`load_assemble`), and each of them is read
from its own bytes (`readSection_assemble`).
-/

namespace Blocklist

namespace LittleEndian

variable {data back : List UInt8} {offset : Nat}

theorem wordAt_of_drop {n : UInt32} (h : data.drop offset = ofWord n ++ back) :
    wordAt offset data = n := by
  unfold wordAt
  rw [h]
  exact word_bytes n

theorem halfAt_of_drop {n : UInt16} (h : data.drop offset = ofHalf n ++ back) :
    halfAt offset data = n := by
  unfold halfAt
  rw [h]
  exact half_bytes n

end LittleEndian

namespace SectionData

/-- What the directory says of a section that begins at `offset`. -/
def info (offset : Nat) (s : SectionData) : SectionInfo :=
  ⟨s.part, 0, offset, s.bytes.length, s.items.toUInt32, crc32 s.bytes⟩

/-- What the directory says of sections of which the first begins at `offset`. -/
def infos (offset : Nat) : List SectionData → List SectionInfo
  | [] => []
  | s :: sections => s.info offset :: infos (offset + s.padded.length) sections

variable {s : SectionData} {sections : List SectionData} {data : List UInt8} {offset : Nat}

theorem length_bytes_le_padded (s : SectionData) : s.bytes.length ≤ s.padded.length := by
  unfold padded
  rw [List.length_append]
  exact Nat.le_add_right ..

theorem length_directory (offset : Nat) (sections : List SectionData) :
    (directory offset sections).length = sections.length * Layout.entryLength := by
  induction sections generalizing offset with
  | nil => rw [directory, List.length_nil, List.length_nil, Nat.zero_mul]
  | cons s sections ih =>
    rw [directory, List.length_append, length_entry, ih, List.length_cons, Nat.succ_mul,
      Nat.add_comm]

/-! ## The directory -/

/-- A section is where its entry says it is. -/
theorem bytes_info {front back : List UInt8} (hdata : data = front ++ s.padded ++ back)
    (hfront : front.length = offset) : (s.info offset).bytes data = s.bytes := by
  unfold SectionInfo.bytes info padded at *
  dsimp only at *
  rw [hdata, List.append_assoc, List.drop_left' hfront, List.append_assoc, List.take_left]

/-- The fields of an entry are those that were written. -/
theorem ofBytes?_entry {tail : List UInt8} {place : Nat}
    (hentry : data.drop place = s.entry offset ++ tail) (hoffset : offset < 2 ^ 32)
    (hlength : s.bytes.length < 2 ^ 32) :
    SectionInfo.ofBytes? data place = some (s.info offset) := by
  have hdrop : ∀ k, data.drop (place + k) = (s.entry offset ++ tail).drop k := by
    intro k
    rw [← List.drop_drop, hentry]
  have hpart : LittleEndian.halfAt place data = s.part.code :=
    LittleEndian.halfAt_of_drop (hentry.trans rfl)
  have hflags : LittleEndian.halfAt (place + 2) data = 0 :=
    LittleEndian.halfAt_of_drop ((hdrop 2).trans rfl)
  have hplace : LittleEndian.wordAt (place + 4) data = offset.toUInt32 :=
    LittleEndian.wordAt_of_drop ((hdrop 4).trans rfl)
  have hbytes : LittleEndian.wordAt (place + 8) data = s.bytes.length.toUInt32 :=
    LittleEndian.wordAt_of_drop ((hdrop 8).trans rfl)
  have hitems : LittleEndian.wordAt (place + 12) data = s.items.toUInt32 :=
    LittleEndian.wordAt_of_drop ((hdrop 12).trans rfl)
  have hchecksum : LittleEndian.wordAt (place + 16) data = crc32 s.bytes :=
    LittleEndian.wordAt_of_drop ((hdrop 16).trans rfl)
  rw [SectionInfo.ofBytes?, hpart, hflags, hplace, hbytes, hitems, hchecksum,
    Section.ofCode?_code, Option.map_some, Reader.toNat_toUInt32_of_lt hoffset,
    Reader.toNat_toUInt32_of_lt hlength]
  rfl

/-- **An entry is read as it was written**, and its section is where it says. -/
theorem read_entry {front back tail : List UInt8} {place : Nat}
    (hentry : data.drop place = s.entry offset ++ tail)
    (hdata : data = front ++ s.padded ++ back) (hfront : front.length = offset)
    (hlength : data.length < 2 ^ 32) :
    SectionInfo.read data place = .ok (some (s.info offset)) := by
  have hpadded := length_bytes_le_padded s
  have hroom : offset + s.padded.length ≤ data.length := by
    rw [hdata, List.length_append, List.length_append, hfront]
    exact Nat.le_add_right ..
  have hinfo := ofBytes?_entry hentry (by omega) (by omega)
  have hbytes := bytes_info hdata hfront
  refine SectionInfo.read_eq_ok_iff.mpr ⟨hinfo.symm, fun i hi => ?_⟩
  obtain rfl := Option.some.inj hi
  refine ⟨?_, ?_⟩
  · show offset + s.bytes.length ≤ data.length
    omega
  · rw [hbytes]
    rfl

/-- The places of entries from the first of them on. -/
theorem map_range_succ (place n : Nat) :
    ((List.range (n + 1)).map fun k => place + k * Layout.entryLength)
      = place :: (List.range n).map fun k =>
          place + Layout.entryLength + k * Layout.entryLength := by
  rw [List.range_succ_eq_map, List.map_cons, List.map_map, Nat.zero_mul, Nat.add_zero]
  refine congrArg (place :: ·) (List.map_congr_left fun k _ => ?_)
  simp only [Function.comp_apply, Nat.succ_mul]
  omega

/-- **The directory is read as it was written.** -/
theorem mapM_read_directory {front tail : List UInt8} {place : Nat}
    (hdirectory : data.drop place = directory offset sections ++ tail)
    (hdata : data = front ++ sections.flatMap padded) (hfront : front.length = offset)
    (hlength : data.length < 2 ^ 32) :
    ((List.range sections.length).map fun n => place + n * Layout.entryLength).mapM
        (SectionInfo.read data)
      = .ok ((infos offset sections).map some) := by
  -- each entry moves the place by its length, and the offset by its section
  induction sections generalizing front offset place with
  | nil => rfl
  | cons s sections ih =>
    rw [List.flatMap_cons, ← List.append_assoc] at hdata
    rw [directory, List.append_assoc] at hdirectory
    have hnext : data.drop (place + Layout.entryLength)
        = directory (offset + s.padded.length) sections ++ tail := by
      rw [← List.drop_drop, hdirectory, List.drop_left' (length_entry offset s)]
    have hfrontNext : (front ++ s.padded).length = offset + s.padded.length := by
      rw [List.length_append, hfront]
    have hrest := ih hnext hdata hfrontNext
    rw [List.length_cons, map_range_succ, List.mapM_cons,
      read_entry hdirectory hdata hfront hlength, hrest]
    rfl

/-! ## Finding a section -/

theorem map_part_infos (offset : Nat) (sections : List SectionData) :
    (infos offset sections).map SectionInfo.part = sections.map SectionData.part := by
  induction sections generalizing offset with
  | nil => rfl
  | cons s sections ih =>
    rw [infos, List.map_cons, List.map_cons, ih]
    rfl

/-- What has a key of its own is found by it. -/
theorem find?_of_nodup_map {α β : Type} [BEq β] [LawfulBEq β] {key : α → β} {list : List α}
    (h : (list.map key).Nodup) {a : α} (ha : a ∈ list) :
    list.find? (key · == key a) = some a := by
  cases hfind : list.find? (key · == key a) with
  | none => exact absurd (beq_self_eq_true (key a)) (List.find?_eq_none.mp hfind a ha)
  | some b =>
    have hkey : key b = key a := by simpa using List.find?_some hfind
    rw [List.inj_on_of_nodup_map h (List.mem_of_find?_eq_some hfind) ha hkey]

/-- Each entry is about the section in its place, and leads to its bytes. -/
theorem forall₂_infos {front : List UInt8} (hdata : data = front ++ sections.flatMap padded)
    (hfront : front.length = offset) :
    List.Forall₂ (fun i s => i = s.info i.offset ∧ i.bytes data = s.bytes)
      (infos offset sections) sections := by
  induction sections generalizing front offset with
  | nil => exact .nil
  | cons s sections ih =>
    rw [List.flatMap_cons, ← List.append_assoc] at hdata
    have hnext : (front ++ s.padded).length = offset + s.padded.length := by
      rw [List.length_append, hfront]
    exact .cons ⟨rfl, bytes_info hdata hfront⟩ (ih hdata hnext)

theorem le_offset_of_mem_infos {i : SectionInfo} (hi : i ∈ infos offset sections) :
    offset ≤ i.offset := by
  induction sections generalizing offset with
  | nil => exact absurd hi List.not_mem_nil
  | cons s sections ih =>
    rcases List.mem_cons.mp hi with rfl | hi
    · exact Nat.le_refl offset
    · exact Nat.le_trans (Nat.le_add_right ..) (ih hi)

end SectionData

namespace Snapshot

variable {sections : List SectionData}

/-! ## The header -/

theorem checksum_assemble (sections : List SectionData) :
    Layout.checksum (assemble sections) = checksumOf sections := by
  have htake : (assemble sections).take Layout.checksumOffset = headerStart sections.length := by
    rw [assemble_eq, List.take_left' (length_headerStart _)]
  have hdrop : (assemble sections).drop (Layout.checksumOffset + 4) = body sections := by
    rw [← List.drop_drop, assemble_eq, List.drop_left' (length_headerStart _)]
    rfl
  rw [Layout.checksum, htake, hdrop]
  rfl

/-- **The header is read as it was written.** -/
theorem ofBytes_assemble (h : sections.length < 2 ^ 32) :
    Header.ofBytes (assemble sections)
      = ⟨Layout.version, Layout.hasChecksum, sections.length, Layout.headerLength,
          Codebook.fingerprint, checksumOf sections⟩ := by
  have hversion : LittleEndian.halfAt 4 (assemble sections) = Layout.version := by
    rw [assemble_eq]
    exact LittleEndian.halfAt_of_drop rfl
  have hflags : LittleEndian.halfAt 6 (assemble sections) = Layout.hasChecksum := by
    rw [assemble_eq]
    exact LittleEndian.halfAt_of_drop rfl
  have hsections : LittleEndian.wordAt 12 (assemble sections) = sections.length.toUInt32 := by
    rw [assemble_eq]
    exact LittleEndian.wordAt_of_drop rfl
  have hdirectory : LittleEndian.wordAt 16 (assemble sections)
      = Layout.headerLength.toUInt32 := by
    rw [assemble_eq]
    exact LittleEndian.wordAt_of_drop rfl
  have hfingerprint : LittleEndian.wordAt 24 (assemble sections) = Codebook.fingerprint := by
    rw [assemble_eq]
    exact LittleEndian.wordAt_of_drop rfl
  have hchecksum : LittleEndian.wordAt Layout.checksumOffset (assemble sections)
      = checksumOf sections := by
    have hdrop : (assemble sections).drop Layout.checksumOffset
        = LittleEndian.ofWord (checksumOf sections) ++ body sections := by
      rw [assemble_eq, List.drop_left' (length_headerStart _)]
    exact LittleEndian.wordAt_of_drop hdrop
  rw [Header.ofBytes, hversion, hflags, hsections, hdirectory, hfingerprint, hchecksum,
    Reader.toNat_toUInt32_of_lt h]
  rfl

theorem headerLength_le_length (sections : List SectionData) :
    Layout.headerLength ≤ (assemble sections).length := by
  rw [assemble_eq, List.length_append, List.length_append, length_headerStart, body,
    List.length_append, List.length_append, List.length_replicate, LittleEndian.length_ofWord]
  simp only [Layout.headerLength, Layout.checksumOffset]
  omega

/-- The header of a snapshot of some sections. -/
def headerOf (sections : List SectionData) : Header :=
  ⟨Layout.version, Layout.hasChecksum, sections.length, Layout.headerLength,
    Codebook.fingerprint, checksumOf sections⟩

theorem read_assemble (h : sections.length < 2 ^ 32) :
    Header.read (assemble sections) = .ok (headerOf sections) := by
  have hmagic : Layout.hasMagic (assemble sections) := by
    rw [assemble_eq]
    rfl
  refine Header.read_eq_ok_iff.mpr ⟨(ofBytes_assemble h).symm, headerLength_le_length sections,
    hmagic, rfl, rfl, fun _ => ?_⟩
  rw [checksum_assemble]
  rfl

/-! ## Loading -/

/-- A snapshot, from its directory on. -/
theorem drop_headerLength_assemble (sections : List SectionData) :
    (assemble sections).drop Layout.headerLength
      = SectionData.directory (firstOffset sections) sections
        ++ sections.flatMap SectionData.padded := by
  rw [assemble_eq, body, List.append_assoc]
  rfl

/-- A snapshot is what comes before its first section, and its sections. -/
theorem exists_front_assemble (sections : List SectionData) :
    ∃ front, assemble sections = front ++ sections.flatMap SectionData.padded
      ∧ front.length = firstOffset sections := by
  refine ⟨(assemble sections).take Layout.headerLength
    ++ SectionData.directory (firstOffset sections) sections, ?_, ?_⟩
  · rw [List.append_assoc, ← drop_headerLength_assemble, List.take_append_drop]
  · rw [List.length_append, List.length_take, SectionData.length_directory, firstOffset,
      Nat.min_eq_left (headerLength_le_length sections)]

theorem firstOffset_le_length (sections : List SectionData) :
    firstOffset sections ≤ (assemble sections).length := by
  obtain ⟨front, hdata, hfront⟩ := exists_front_assemble sections
  rw [hdata, List.length_append, hfront]
  exact Nat.le_add_right ..

/-- No section is longer than the snapshot. -/
theorem length_bytes_le_length {s : SectionData} (hs : s ∈ sections) :
    s.bytes.length ≤ (assemble sections).length := by
  obtain ⟨front, hdata, -⟩ := exists_front_assemble sections
  have hsub : (sections.flatMap SectionData.padded).length ≤ (assemble sections).length := by
    rw [hdata, List.length_append]
    exact Nat.le_add_left ..
  have hpadded : s.padded.length ≤ (sections.flatMap SectionData.padded).length :=
    (List.sublist_flatten_of_mem (List.mem_map_of_mem hs)).length_le
  exact Nat.le_trans (SectionData.length_bytes_le_padded s) (Nat.le_trans hpadded hsub)

/-- Some sections as they are once they are loaded. -/
def loaded (sections : List SectionData) : Snapshot where
  data := assemble sections
  header := headerOf sections
  sections := SectionData.infos (firstOffset sections) sections

/-- **A snapshot is loaded as it was put together.** -/
theorem load_assemble (h : (assemble sections).length < 2 ^ 32) :
    load (assemble sections) = .ok (loaded sections) := by
  obtain ⟨front, hdata, hfront⟩ := exists_front_assemble sections
  have hroom := firstOffset_le_length sections
  have hcount : sections.length < 2 ^ 32 := by
    simp only [firstOffset, Layout.headerLength, Layout.entryLength] at hroom
    omega
  refine load_eq_ok_iff.mpr ⟨headerOf sections, _, read_assemble hcount, hroom,
    SectionData.mapM_read_directory (drop_headerLength_assemble sections) hdata hfront h, ?_⟩
  rw [List.filterMap_map]
  exact congrArg (Snapshot.mk _ _) (List.filterMap_some (l := _)).symm

/-- A section that is listed once is found, whatever else is listed. -/
theorem info?_of_mem {s : Snapshot} {i : SectionInfo}
    (hdistinct : (s.sections.map SectionInfo.part).Nodup) (hi : i ∈ s.sections) :
    s.info? i.part = some i := by
  have hreversed : (s.sections.reverse.map SectionInfo.part).Nodup := by
    rwa [List.map_reverse, List.nodup_reverse]
  exact SectionData.find?_of_nodup_map hreversed (List.mem_reverse.mpr hi)

/-- **A section is read from its own bytes**, where no two sections are of one kind. -/
theorem readSection_assemble {α : Type} {reader : Reader α} {value : α} {s : SectionData}
    (hkinds : (sections.map SectionData.part).Nodup) (hs : s ∈ sections)
    (hread : reader.ReadsAll s.bytes value) :
    (loaded sections).readSection s.part reader = .ok value := by
  obtain ⟨front, hdata, hfront⟩ := exists_front_assemble sections
  obtain ⟨i, hi, hinfo, hbytes⟩ :=
    exists_of_forall₂ (SectionData.forall₂_infos hdata hfront).flip hs
  have hpart : i.part = s.part := congrArg SectionInfo.part hinfo
  have hfind : (loaded sections).info? i.part = some i := by
    refine info?_of_mem ?_ hi
    rwa [loaded, SectionData.map_part_infos]
  rw [readSection, ← hpart, hfind]
  dsimp only [loaded]
  rw [hbytes]
  exact hread i.offset

end Snapshot

end Blocklist
