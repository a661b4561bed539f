import Blocklist.Proofs.Hash.BitByBit
import Blocklist.Proofs.Snapshot.RoundTrip
/-!
# Snapshots — layout

What lies where in a snapshot, told by byte and offset: sections begin at
multiples of eight, behind the directory and behind each other, and every
byte that is not in a section and in no field is zero.

Main statement: the snapshot of every engine is laid out like this
(`isLaidOut_snapshot`).
-/

namespace Blocklist

/-- The byte at `k` belongs to a field of the header, or to one of an entry of the directory. -/
def Layout.IsField (entries k : Nat) : Prop :=
  k < 32 ∨ ∃ n < entries, 64 + n * 24 ≤ k ∧ k < 64 + n * 24 + 20

/-- The byte at `k` belongs to the section. -/
def SectionInfo.Spans (i : SectionInfo) (k : Nat) : Prop := i.offset ≤ k ∧ k < i.offset + i.length

namespace Engine

/-- How many filters or buckets an engine has for a section. -/
def count (e : Engine) : Section → Nat
  | .networkFilters => e.network.size
  | .cosmeticFilters => e.cosmetic.size
  | .blockIndex => e.indexes.blocks.buckets.length
  | .exceptionIndex => e.indexes.exceptions.buckets.length
  | .redirectIndex => e.indexes.redirects.buckets.length
  | .cspIndex => e.indexes.csp.buckets.length
  | .hostIndex => e.indexes.byHost.buckets.length
  | .genericIndex => e.indexes.generic.buckets.length

/-- The filters or buckets that an engine has for a section, as bytes. -/
def records (e : Engine) : Section → List UInt8
  | .networkFilters => Record.list Record.network e.network.toList
  | .cosmeticFilters => Record.list Record.cosmetic e.cosmetic.toList
  | .blockIndex => Record.index e.indexes.blocks
  | .exceptionIndex => Record.index e.indexes.exceptions
  | .redirectIndex => Record.index e.indexes.redirects
  | .cspIndex => Record.index e.indexes.csp
  | .hostIndex => Record.index e.indexes.byHost
  | .genericIndex => Record.index e.indexes.generic

/-- Bytes hold an engine as a snapshot with this directory. -/
structure IsLaidOut (e : Engine) (data : List UInt8) (directory : List SectionInfo) : Prop where
  /-- The file ends at a multiple of eight. -/
  whole : 8 ∣ data.length
  /-- The header tells where the directory is, and that it has eight entries. -/
  header : (Header.ofBytes data).directory = 64 ∧ (Header.ofBytes data).sections = 8
  /-- The entries are there, one after the other. -/
  entries : (List.range 8).map (fun n => SectionInfo.ofBytes? data (64 + n * 24))
    = directory.map some
  /-- Every section has one, in the order of the file. -/
  parts : directory.map SectionInfo.part = Section.all
  /-- Sections begin at multiples of eight. -/
  aligned : ∀ i ∈ directory, 8 ∣ i.offset
  /-- They begin behind the directory. -/
  behind : ∀ i ∈ directory, 64 + 8 * 24 ≤ i.offset
  /-- None of them is without a byte. -/
  nonempty : ∀ i ∈ directory, 0 < i.length
  /-- Each ends before the next begins. -/
  apart : directory.Pairwise fun i j => i.offset + i.length ≤ j.offset
  /-- They lie within the file. -/
  inside : ∀ i ∈ directory, i.offset + i.length ≤ data.length
  /-- They hold what the engine has for them. -/
  bytes : ∀ i ∈ directory, i.bytes data = e.records i.part
  /-- The entry has the CRC-32 of the section. -/
  checksum : ∀ i ∈ directory, i.checksum = Crc32.bitwise (i.bytes data)
  /-- The entry has the number of filters or buckets. -/
  items : ∀ i ∈ directory, i.items.toNat = e.count i.part
  /-- What is not in a section and in no field is zero. -/
  zero : ∀ k b, data[k]? = some b → ¬ Layout.IsField 8 k → (∀ i ∈ directory, ¬ i.Spans k) → b = 0

end Engine

namespace SectionData

variable {sections : List SectionData} {i : SectionInfo} {data : List UInt8} {b : UInt8}
variable {k offset : Nat}

/-! ## The entries -/

theorem alignment_dvd_of_mem_infos (haligned : Layout.alignment ∣ offset)
    (hi : i ∈ infos offset sections) : Layout.alignment ∣ i.offset := by
  induction sections generalizing offset with
  | nil => exact absurd hi List.not_mem_nil
  | cons s sections ih =>
    rcases List.mem_cons.mp hi with rfl | hi
    · exact haligned
    · exact ih (alignment_dvd_next haligned s) hi

/-- **No section reaches into another.** -/
theorem pairwise_infos (offset : Nat) (sections : List SectionData) :
    (infos offset sections).Pairwise fun i j => i.offset + i.length ≤ j.offset := by
  induction sections generalizing offset with
  | nil => exact List.Pairwise.nil
  | cons s sections ih =>
    refine List.pairwise_cons.mpr ⟨fun j hj => ?_, ih _⟩
    have hpadded := length_bytes_le_padded s
    have hle := le_offset_of_mem_infos hj
    show offset + s.bytes.length ≤ j.offset
    omega

theorem alignment_dvd_length_flatMap (sections : List SectionData) :
    Layout.alignment ∣ (sections.flatMap padded).length := by
  induction sections with
  | nil => exact Nat.dvd_zero _
  | cons s sections ih =>
    rw [List.flatMap_cons, List.length_append]
    exact Nat.dvd_add (alignment_dvd_length_padded s) ih

/-! ## What is between -/

/-- Behind the fields of an entry there are zeros up to the next. -/
theorem eq_zero_of_directory (hb : (directory offset sections)[k]? = some b)
    (hfield : ∀ n < sections.length, ¬ (n * 24 ≤ k ∧ k < n * 24 + 20)) : b = 0 := by
  induction sections generalizing offset k with
  | nil => simp [directory] at hb
  | cons s sections ih =>
    rw [directory] at hb
    have hfirst := hfield 0 (Nat.zero_lt_succ _)
    have hfields : (s.fields offset).length = 20 := rfl
    have hentry : (s.entry offset).length = 24 := length_entry offset s
    by_cases hk : k < 24
    · rw [List.getElem?_append_left (by omega), entry, List.getElem?_append_right (by omega)] at hb
      exact List.eq_of_mem_replicate (List.mem_of_getElem? hb)
    · rw [List.getElem?_append_right (by omega), hentry] at hb
      refine ih hb fun n hn hspan => hfield (n + 1) (Nat.succ_lt_succ hn) ?_
      omega

/-- Behind a section there are zeros up to the next. -/
theorem eq_zero_of_sections {front : List UInt8} (hdata : data = front ++ sections.flatMap padded)
    (hfront : front.length = offset) (hb : data[k]? = some b) (hk : offset ≤ k)
    (hspan : ∀ i ∈ infos offset sections, ¬ i.Spans k) : b = 0 := by
  induction sections generalizing front offset with
  | nil =>
    obtain ⟨hlt, -⟩ := List.getElem?_eq_some_iff.mp hb
    rw [hdata, List.flatMap_nil, List.append_nil] at hlt
    omega
  | cons s sections ih =>
    have hnext : (front ++ s.padded).length = offset + s.padded.length := by
      rw [List.length_append, hfront]
    rw [List.flatMap_cons, ← List.append_assoc] at hdata
    by_cases hsection : k < offset + s.padded.length
    · have hout : ¬ (offset ≤ k ∧ k < offset + s.bytes.length) :=
        hspan (s.info offset) (List.mem_cons_self ..)
      rw [hdata, List.getElem?_append_left (by omega), List.getElem?_append_right (by omega),
        padded, List.getElem?_append_right (by omega)] at hb
      exact List.eq_of_mem_replicate (List.mem_of_getElem? hb)
    · exact ih hdata hnext (by omega) fun i hi => hspan i (List.mem_cons_of_mem _ hi)

end SectionData

namespace Snapshot

variable {sections : List SectionData} {b : UInt8} {k : Nat}

theorem alignment_dvd_length_assemble (sections : List SectionData) :
    Layout.alignment ∣ (assemble sections).length := by
  obtain ⟨front, hdata, hfront⟩ := exists_front_assemble sections
  rw [hdata, List.length_append, hfront]
  exact Nat.dvd_add (alignment_dvd_firstOffset sections)
    (SectionData.alignment_dvd_length_flatMap sections)

/-- Behind the checksum there are zeros, the entries, and the sections. -/
theorem eq_zero_of_assemble (hb : (assemble sections)[k]? = some b)
    (hfield : ¬ Layout.IsField sections.length k)
    (hspan : ∀ i ∈ SectionData.infos (firstOffset sections) sections, ¬ i.Spans k) : b = 0 := by
  have hheader : 32 ≤ k := Nat.not_lt.mp fun h => hfield (.inl h)
  have hstart := length_headerStart sections.length
  have hchecksum := LittleEndian.length_ofWord (checksumOf sections)
  have hdirectory := SectionData.length_directory (firstOffset sections) sections
  have hreserved : (List.replicate 32 (0 : UInt8)).length = 32 := List.length_replicate
  have hfirst : firstOffset sections = 64 + sections.length * Layout.entryLength := rfl
  rw [Layout.checksumOffset] at hstart
  by_cases hsections : firstOffset sections ≤ k
  · obtain ⟨front, hdata, hfront⟩ := exists_front_assemble sections
    exact SectionData.eq_zero_of_sections hdata hfront hb hsections hspan
  · rw [assemble_eq, List.getElem?_append_right (by omega),
      List.getElem?_append_right (by omega), body, hstart, hchecksum,
      List.getElem?_append_left (by rw [List.length_append]; omega)] at hb
    by_cases hentries : k < 64
    · rw [List.getElem?_append_left (by omega)] at hb
      exact List.eq_of_mem_replicate (List.mem_of_getElem? hb)
    · rw [List.getElem?_append_right (by omega), hreserved] at hb
      refine SectionData.eq_zero_of_directory hb fun n hn hspan => hfield (.inr ⟨n, hn, ?_⟩)
      omega

end Snapshot

namespace Engine

variable {e : Engine} {i : SectionInfo}

theorem ofEngine_eq (e : Engine) :
    SectionData.ofEngine e = Section.all.map fun part => ⟨part, e.count part, e.records part⟩ :=
  rfl

theorem length_list_pos {α : Type} (write : α → List UInt8) (items : List α) :
    0 < (Record.list write items).length := by
  have hcount := Reader.length_varint_pos items.length.toUInt32.toNat
  rw [Record.list, List.length_append]
  omega

theorem length_index_pos (index : TokenIndex) : 0 < (Record.index index).length := by
  have hlist := length_list_pos Record.bucket index.buckets
  rw [Record.index, List.length_append]
  omega

theorem length_records_pos (e : Engine) (part : Section) : 0 < (e.records part).length := by
  cases part with
  | networkFilters => exact length_list_pos ..
  | cosmeticFilters => exact length_list_pos ..
  | _ => exact length_index_pos _

theorem length_buckets_le (index : TokenIndex) :
    index.buckets.length ≤ (Record.index index).length := by
  have hbucket : ∀ b : Bucket, 0 < (Record.bucket b).length := by
    simp [Record.bucket, LittleEndian.ofWord]
  have hlist := length_le_length_list hbucket index.buckets
  rw [Record.index, List.length_append]
  omega

/-- Every filter and every bucket takes a byte at least. -/
theorem count_le_length_records (e : Engine) (part : Section) :
    e.count part ≤ (e.records part).length := by
  cases part with
  | networkFilters => exact length_le_length_list length_network_pos e.network.toList
  | cosmeticFilters => exact length_le_length_list length_cosmetic_pos e.cosmetic.toList
  | _ => exact length_buckets_le _

/-- An entry tells what the engine has for its section. -/
theorem of_mem_infos {front : List UInt8}
    (hdata : e.snapshot = front ++ (SectionData.ofEngine e).flatMap SectionData.padded)
    (hfront : front.length = Snapshot.firstOffset (SectionData.ofEngine e))
    (hi : i ∈ SectionData.infos (Snapshot.firstOffset (SectionData.ofEngine e))
      (SectionData.ofEngine e)) :
    i.length = (e.records i.part).length ∧ i.items = (e.count i.part).toUInt32
      ∧ i.bytes e.snapshot = e.records i.part := by
  obtain ⟨s, hs, hinfo, hbytes⟩ := exists_of_forall₂ (SectionData.forall₂_infos hdata hfront) hi
  rw [ofEngine_eq] at hs
  obtain ⟨part, -, rfl⟩ := List.mem_map.mp hs
  rw [hbytes, hinfo]
  exact ⟨rfl, rfl, rfl⟩

/-- **The snapshot of every engine is laid out as it should be.** -/
theorem isLaidOut_snapshot (e : Engine) (h : e.snapshot.length < 2 ^ 32) :
    ∃ directory, e.IsLaidOut e.snapshot directory := by
  let sections := SectionData.ofEngine e
  let directory := SectionData.infos (Snapshot.firstOffset sections) sections
  obtain ⟨front, hdata, hfront⟩ := Snapshot.exists_front_assemble sections
  have haligned := Snapshot.alignment_dvd_firstOffset sections
  -- the directory is what a reader finds, who checks places and checksums
  obtain ⟨hentries, hchecked⟩ := SectionInfo.mapM_read_eq_ok_iff.mp
    (SectionData.mapM_read_directory (Snapshot.drop_headerLength_assemble sections) hdata hfront h)
  have hchecked : ∀ i ∈ directory, i.offset + i.length ≤ e.snapshot.length
      ∧ i.checksum = crc32 (i.bytes e.snapshot) :=
    fun i hi => hchecked i (List.mem_map_of_mem hi)
  have hrecords : ∀ i ∈ directory, i.length = (e.records i.part).length
      ∧ i.items = (e.count i.part).toUInt32 ∧ i.bytes e.snapshot = e.records i.part :=
    fun i hi => of_mem_infos hdata hfront hi
  refine ⟨directory, ?_⟩
  constructor
  case whole => exact Snapshot.alignment_dvd_length_assemble sections
  case header =>
    have height : (8 : Nat) < 2 ^ 32 := by decide
    have hheader : Header.ofBytes e.snapshot = Snapshot.headerOf sections :=
      Snapshot.ofBytes_assemble height
    rw [hheader]
    exact ⟨rfl, rfl⟩
  case entries => rw [hentries, List.map_map]; rfl
  case parts => exact SectionData.map_part_infos _ sections
  case aligned => exact fun i hi => SectionData.alignment_dvd_of_mem_infos haligned hi
  case behind => exact fun i hi => SectionData.le_offset_of_mem_infos hi
  case nonempty =>
    intro i hi
    obtain ⟨hlength, -, -⟩ := hrecords i hi
    rw [hlength]
    exact length_records_pos e i.part
  case apart => exact SectionData.pairwise_infos _ sections
  case inside => exact fun i hi => (hchecked i hi).1
  case bytes => exact fun i hi => (hrecords i hi).2.2
  case checksum =>
    intro i hi
    rw [(hchecked i hi).2, crc32_eq_bitwise]
  case items =>
    intro i hi
    obtain ⟨hlength, hitems, -⟩ := hrecords i hi
    have hcount := count_le_length_records e i.part
    have hinside := (hchecked i hi).1
    rw [hitems, Reader.toNat_toUInt32_of_lt (by omega)]
  case zero => exact fun k b hb hfield hspan => Snapshot.eq_zero_of_assemble hb hfield hspan

theorem isLaidOut_snapshot_full :
    (Engine.build [fullFilter] [unhideFilter]).snapshot.length < 2 ^ 32
      ∧ ∃ directory, (Engine.build [fullFilter] [unhideFilter]).IsLaidOut
          (Engine.build [fullFilter] [unhideFilter]).snapshot directory :=
  ⟨length_snapshot_fullFilter, isLaidOut_snapshot _ length_snapshot_fullFilter⟩

end Engine

end Blocklist
