import Mathlib.Data.List.Forall2
import Blocklist.Proofs.Snapshot.Damage
/-!
# Snapshots — rearranged files

A file is a rearranged snapshot (`Snapshot.IsRearranged`) where its directory
lists the same sections, in any order and wherever they are now, among
entries of any unknown kinds. This is what becomes of a snapshot when another
directory is put behind its header, and all that was there is moved
(`Snapshot.isRearranged_relisted`).
-/

namespace Blocklist

variable {data moved : List UInt8}

/-! ## What is listed -/

namespace Snapshot

/-- The entries of known sections, in the order of the directory. -/
def listed (data : List UInt8) : List SectionInfo :=
  (places (Header.ofBytes data)).filterMap (SectionInfo.ofBytes? data)

/-- **When a snapshot is accepted**, by the sections that it lists. -/
theorem load_eq_ok_iff_listed {s : Snapshot} :
    load data = .ok s ↔ Header.read data = .ok (Header.ofBytes data)
      ∧ (Header.ofBytes data).directory + (Header.ofBytes data).sections * Layout.entryLength
          ≤ data.length
      ∧ (∀ i ∈ listed data,
          i.offset + i.length ≤ data.length ∧ i.checksum = crc32 (i.bytes data))
      ∧ s = ⟨data, Header.ofBytes data, listed data⟩ := by
  have hmem : ∀ i, some i ∈ (places (Header.ofBytes data)).map (SectionInfo.ofBytes? data)
      ↔ i ∈ listed data := by
    intro i
    rw [listed, List.mem_filterMap, List.mem_map]
  have hlisted : ((places (Header.ofBytes data)).map (SectionInfo.ofBytes? data)).filterMap
      (fun entry => entry) = listed data := by
    rw [List.filterMap_map]
    rfl
  simp only [load_eq_ok_iff, SectionInfo.mapM_read_eq_ok_iff]
  constructor
  · rintro ⟨h, entries, hread, hroom, ⟨rfl, hchecked⟩, rfl⟩
    obtain rfl := (Header.read_eq_ok_iff.mp hread).1
    exact ⟨hread, hroom, fun i hi => hchecked i ((hmem i).mpr hi), by rw [hlisted]⟩
  · rintro ⟨hread, hroom, hchecked, rfl⟩
    exact ⟨_, _, hread, hroom, ⟨rfl, fun i hi => hchecked i ((hmem i).mp hi)⟩, by rw [hlisted]⟩

/-- A snapshot lists the sections that it was put together of. -/
theorem listed_assemble {sections : List SectionData}
    (h : (assemble sections).length < 2 ^ 32) :
    listed (assemble sections) = SectionData.infos (firstOffset sections) sections := by
  obtain ⟨-, -, -, hloaded⟩ := load_eq_ok_iff_listed.mp (load_assemble h)
  exact (congrArg Snapshot.sections hloaded).symm

end Snapshot

/-! ## Rearranged files -/

/-- The same section in another file: its entry differs in the place alone, which lies in that file
and has the same bytes. -/
structure SectionInfo.IsMoved (data moved : List UInt8) (i j : SectionInfo) : Prop where
  /-- Only the place may differ. -/
  entry : j = { i with offset := j.offset }
  /-- The section lies in the file. -/
  inside : j.offset + j.length ≤ moved.length
  /-- Its bytes are unchanged. -/
  bytes : j.bytes moved = i.bytes data

theorem SectionInfo.map_part_of_isMoved {order listed : List SectionInfo}
    (h : List.Forall₂ (SectionInfo.IsMoved data moved) order listed) :
    listed.map SectionInfo.part = order.map SectionInfo.part := by
  induction h with
  | nil => rfl
  | cons hfirst _ ih => rw [List.map_cons, List.map_cons, ih, congrArg part hfirst.entry]

namespace Snapshot

/-- A file made of a snapshot by listing its sections in another order, with entries of unknown
kinds put in, and by moving directory and sections. Nothing is asked of what is not listed. -/
structure IsRearranged (data moved : List UInt8) : Prop where
  /-- There is room for a header. -/
  room : Layout.headerLength ≤ moved.length
  /-- The file begins with the same bytes. -/
  magic : moved.take Layout.magic.length = data.take Layout.magic.length
  /-- The version is the same. -/
  version : (Header.ofBytes moved).version = (Header.ofBytes data).version
  /-- The flags are the same. -/
  flags : (Header.ofBytes moved).flags = (Header.ofBytes data).flags
  /-- The codebooks are the same. -/
  fingerprint : (Header.ofBytes moved).fingerprint = (Header.ofBytes data).fingerprint
  /-- The checksum is that of the file, where there is one. -/
  checksum : (Header.ofBytes moved).flags &&& Layout.hasChecksum ≠ 0 →
    (Header.ofBytes moved).checksum = Layout.checksum moved
  /-- The directory lies in the file. -/
  inside : (Header.ofBytes moved).directory
    + (Header.ofBytes moved).sections * Layout.entryLength ≤ moved.length
  /-- The directory lists the same sections, in some order. -/
  sections : ∃ order, order.Perm (listed data)
    ∧ List.Forall₂ (SectionInfo.IsMoved data moved) order (listed moved)

end Snapshot

/-! ## Numbers in place of others -/

namespace Layout

open LittleEndian (ofWord)

variable {bytes : List UInt8} {offset place n : Nat} {word : UInt32}

theorem exists_overwrite_eq (word : UInt32) (h : offset + 4 ≤ bytes.length) :
    ∃ front old back, bytes = front ++ old ++ back ∧ front.length = offset ∧ old.length = 4
      ∧ overwrite offset (ofWord word) bytes = front ++ ofWord word ++ back := by
  refine ⟨bytes.take offset, (bytes.drop offset).take 4, bytes.drop (offset + 4), ?_, ?_, ?_, rfl⟩
  · rw [List.append_assoc, ← List.drop_drop, List.take_append_drop, List.take_append_drop]
  · rw [List.length_take]
    omega
  · rw [List.length_take, List.length_drop]
    omega

theorem length_overwrite (h : offset + 4 ≤ bytes.length) :
    (overwrite offset (ofWord word) bytes).length = bytes.length := by
  obtain ⟨front, old, back, rfl, -, hold, hwritten⟩ := exists_overwrite_eq word h
  rw [hwritten]
  simp only [List.length_append, hold, LittleEndian.length_ofWord]

/-- Other bytes stay. -/
theorem take_drop_overwrite (h : offset + 4 ≤ bytes.length)
    (hclear : place + n ≤ offset ∨ offset + 4 ≤ place) :
    ((overwrite offset (ofWord word) bytes).drop place).take n = (bytes.drop place).take n := by
  obtain ⟨front, old, back, rfl, rfl, hold, hwritten⟩ := exists_overwrite_eq word h
  have hlength : (ofWord word).length = old.length := hold.symm
  rw [hwritten]
  exact take_drop_window hlength (by rwa [hold])

theorem drop_overwrite (h : offset + 4 ≤ bytes.length) (hplace : offset + 4 ≤ place) :
    (overwrite offset (ofWord word) bytes).drop place = bytes.drop place := by
  obtain ⟨front, old, back, rfl, rfl, hold, hwritten⟩ := exists_overwrite_eq word h
  have hlength : (ofWord word).length = old.length := hold.symm
  rw [hwritten]
  exact drop_window hlength (by rwa [hold])

/-- A number is read where it was written. -/
theorem wordAt_overwrite (h : offset + 4 ≤ bytes.length) :
    LittleEndian.wordAt offset (overwrite offset (ofWord word) bytes) = word := by
  obtain ⟨front, old, back, rfl, rfl, -, hwritten⟩ := exists_overwrite_eq word h
  have hdrop : (front ++ ofWord word ++ back).drop front.length = ofWord word ++ back := by
    rw [List.append_assoc, List.drop_left]
  rw [hwritten]
  exact LittleEndian.wordAt_of_drop hdrop

/-- The checksum does not cover itself. -/
theorem checksum_overwrite (h : checksumOffset + 4 ≤ bytes.length) :
    checksum (overwrite checksumOffset (ofWord word) bytes) = checksum bytes := by
  have htake : (overwrite checksumOffset (ofWord word) bytes).take checksumOffset
      = bytes.take checksumOffset :=
    take_drop_overwrite h (.inl (Nat.le_of_eq (Nat.zero_add _)))
  rw [checksum, htake, drop_overwrite h (Nat.le_refl _), checksum]

end Layout

/-! ## Files with another directory -/

namespace SectionInfo

/-- The entry of a section that has been moved towards the end. -/
def movedBy (distance : Nat) (i : SectionInfo) : SectionInfo :=
  { i with offset := i.offset + distance }

theorem ofBytes?_drop (data : List UInt8) (place : Nat) :
    ofBytes? (data.drop place) 0 = ofBytes? data place := by
  simp only [ofBytes?, LittleEndian.halfAt, LittleEndian.wordAt, List.drop_drop, Nat.zero_add,
    Nat.add_zero]

/-- The entries of a directory are read one after the other. -/
theorem filterMap_ofBytes?_flatten {entries : List (List UInt8)} {tail : List UInt8} {place : Nat}
    (hlength : ∀ entry ∈ entries, entry.length = Layout.entryLength)
    (hdrop : data.drop place = entries.flatten ++ tail) :
    ((List.range entries.length).map fun n => place + n * Layout.entryLength).filterMap
        (ofBytes? data)
      = entries.filterMap (ofBytes? · 0) := by
  induction entries generalizing place with
  | nil => rfl
  | cons entry entries ih =>
    obtain ⟨hfirst, hothers⟩ := List.forall_mem_cons.mp hlength
    rw [List.flatten_cons, List.append_assoc] at hdrop
    have hread : ofBytes? data place = ofBytes? entry 0 := by
      rw [← ofBytes?_drop]
      refine ofBytes?_congr ?_
      rw [List.drop_zero, List.drop_zero, hdrop, List.take_left' hfirst,
        List.take_of_length_le (Nat.le_of_eq hfirst)]
    have hnext : data.drop (place + Layout.entryLength) = entries.flatten ++ tail := by
      rw [← List.drop_drop, hdrop, List.drop_left' hfirst]
    rw [List.length_cons, SectionData.map_range_succ, List.filterMap_cons, List.filterMap_cons,
      hread, ih hothers hnext]

/-- Entries that were written for places further towards the end are those of moved sections. -/
theorem filterMap_ofBytes?_entry {placed : List (SectionInfo × SectionData)} {distance : Nat}
    (h : ∀ p ∈ placed, p.1 = p.2.info p.1.offset ∧ p.1.offset + p.1.length + distance < 2 ^ 32) :
    (placed.map fun p => p.2.entry (p.1.offset + distance)).filterMap (ofBytes? · 0)
      = (placed.map Prod.fst).map (movedBy distance) := by
  induction placed with
  | nil => rfl
  | cons p placed ih =>
    obtain ⟨⟨hinfo, hplace⟩, hothers⟩ := List.forall_mem_cons.mp h
    have hlength : p.2.bytes.length = p.1.length := (congrArg length hinfo).symm
    have hread : ofBytes? (p.2.entry (p.1.offset + distance)) 0
        = some (p.2.info (p.1.offset + distance)) :=
      SectionData.ofBytes?_entry (List.append_nil _).symm (by omega) (by omega)
    have hmoved : p.2.info (p.1.offset + distance) = p.1.movedBy distance := by
      rw [hinfo]
      rfl
    rw [List.map_cons, List.filterMap_cons, hread, hmoved, ih hothers, List.map_cons, List.map_cons]

end SectionInfo

namespace Snapshot

variable {gap : List UInt8} {entries : List (List UInt8)} {place n : Nat}

/-- The header of a snapshot for a directory elsewhere, with another number of entries. -/
def headerFor (directory sections : Nat) (data : List UInt8) : List UInt8 :=
  Layout.overwrite 16 (LittleEndian.ofWord directory.toUInt32)
    (Layout.overwrite 12 (LittleEndian.ofWord sections.toUInt32) (data.take Layout.headerLength))

/-- A snapshot with these entries as its directory, which begins behind the header and a gap. What
was behind the header follows it. -/
def relisted (gap : List UInt8) (entries : List (List UInt8)) (data : List UInt8) : List UInt8 :=
  let file := headerFor (Layout.headerLength + gap.length) entries.length data
    ++ (gap ++ entries.flatten ++ data.drop Layout.headerLength)
  Layout.overwrite Layout.checksumOffset (LittleEndian.ofWord (Layout.checksum file)) file

section HeaderFor

variable (directory sections : Nat) (hheader : Layout.headerLength ≤ data.length)

include hheader

theorem length_counted : (Layout.overwrite 12 (LittleEndian.ofWord sections.toUInt32)
    (data.take Layout.headerLength)).length = Layout.headerLength := by
  have htake : (data.take Layout.headerLength).length = Layout.headerLength :=
    List.length_take_of_le hheader
  rw [Layout.length_overwrite (by rw [htake]; decide), htake]

theorem length_headerFor :
    (headerFor directory sections data).length = Layout.headerLength := by
  have hcounted := length_counted sections hheader
  rw [headerFor, Layout.length_overwrite (by rw [hcounted]; decide), hcounted]

theorem wordAt_headerFor :
    LittleEndian.wordAt 12 (headerFor directory sections data) = sections.toUInt32
      ∧ LittleEndian.wordAt 16 (headerFor directory sections data) = directory.toUInt32 := by
  have htake : (data.take Layout.headerLength).length = Layout.headerLength :=
    List.length_take_of_le hheader
  have hcounted := length_counted sections hheader
  constructor
  · rw [headerFor, LittleEndian.wordAt_congr
      (Layout.take_drop_overwrite (by rw [hcounted]; decide) (.inl (by decide)))]
    exact Layout.wordAt_overwrite (by rw [htake]; decide)
  · exact Layout.wordAt_overwrite (by rw [hcounted]; decide)

/-- The other bytes of the header stay. -/
theorem take_drop_headerFor (hplace : place + n ≤ Layout.headerLength)
    (hclear : place + n ≤ 12 ∨ 20 ≤ place) :
    ((headerFor directory sections data).drop place).take n = (data.drop place).take n := by
  have htake : (data.take Layout.headerLength).length = Layout.headerLength :=
    List.length_take_of_le hheader
  have hcounted := length_counted sections hheader
  rw [headerFor, Layout.take_drop_overwrite (by rw [hcounted]; decide) (by omega),
    Layout.take_drop_overwrite (by rw [htake]; decide) (by omega), List.drop_take, List.take_take,
    Nat.min_eq_left (by omega)]

end HeaderFor

theorem length_flatten_entries (h : ∀ entry ∈ entries, entry.length = Layout.entryLength) :
    entries.flatten.length = entries.length * Layout.entryLength := by
  rw [List.length_flatten, List.map_congr_left (g := fun _ => Layout.entryLength) h,
    List.map_const', List.sum_replicate_nat]

section Relisted

variable (gap entries) (hheader : Layout.headerLength ≤ data.length)

include hheader

theorem le_length_file (back : List UInt8) (directory sections : Nat) :
    Layout.checksumOffset + 4 ≤ (headerFor directory sections data ++ back).length := by
  rw [List.length_append, length_headerFor _ _ hheader]
  exact Nat.le_trans (by decide) (Nat.le_add_right Layout.headerLength _)

/-- What follows the header. -/
theorem drop_relisted : (relisted gap entries data).drop Layout.headerLength
    = gap ++ entries.flatten ++ data.drop Layout.headerLength := by
  rw [relisted, Layout.drop_overwrite (le_length_file hheader _ _ _) (by decide),
    List.drop_left' (length_headerFor _ _ hheader)]

theorem length_relisted : (relisted gap entries data).length
    = data.length + gap.length + entries.flatten.length := by
  rw [relisted, Layout.length_overwrite (le_length_file hheader _ _ _), List.length_append,
    length_headerFor _ _ hheader]
  simp only [List.length_append, List.length_drop]
  omega

/-- The bytes of the header but those of the checksum. -/
theorem take_drop_relisted (hplace : place + n ≤ Layout.checksumOffset) :
    ((relisted gap entries data).drop place).take n
      = ((headerFor (Layout.headerLength + gap.length) entries.length data).drop place).take n := by
  have hroom : place + n
      ≤ (headerFor (Layout.headerLength + gap.length) entries.length data).length := by
    rw [length_headerFor _ _ hheader]
    exact Nat.le_trans hplace (by decide)
  rw [relisted, Layout.take_drop_overwrite (le_length_file hheader _ _ _) (.inl hplace),
    List.drop_append_of_le_length (by omega),
    List.take_append_of_le_length (by rw [List.length_drop]; omega)]

/-- The header tells of the new directory and is the same otherwise. -/
theorem ofBytes_relisted (hlength : (relisted gap entries data).length < 2 ^ 32)
    (hentries : entries.length ≤ entries.flatten.length) :
    Header.ofBytes (relisted gap entries data) = { Header.ofBytes data with
      sections := entries.length
      directory := Layout.headerLength + gap.length
      checksum := Layout.checksum (relisted gap entries data) } := by
  have hword := wordAt_headerFor (Layout.headerLength + gap.length) entries.length hheader
  have hsame : ∀ place n, place + n ≤ 12 ∨ 20 ≤ place ∧ place + n ≤ Layout.checksumOffset →
      ((relisted gap entries data).drop place).take n = (data.drop place).take n := by
    intro place n hplace
    have hbelow : place + n ≤ Layout.checksumOffset := by
      simp only [Layout.checksumOffset] at *
      omega
    rw [take_drop_relisted gap entries hheader hbelow]
    exact take_drop_headerFor _ _ hheader (Nat.le_trans hbelow (by decide)) (by omega)
  rw [length_relisted gap entries hheader] at hlength
  have hversion : LittleEndian.halfAt 4 (relisted gap entries data) = LittleEndian.halfAt 4 data :=
    LittleEndian.halfAt_congr (hsame 4 2 (by decide))
  have hflags : LittleEndian.halfAt 6 (relisted gap entries data) = LittleEndian.halfAt 6 data :=
    LittleEndian.halfAt_congr (hsame 6 2 (by decide))
  have hfingerprint : LittleEndian.wordAt 24 (relisted gap entries data)
      = LittleEndian.wordAt 24 data := LittleEndian.wordAt_congr (hsame 24 4 (by decide))
  have hsections : LittleEndian.wordAt 12 (relisted gap entries data)
      = entries.length.toUInt32 := by
    rw [LittleEndian.wordAt_congr (take_drop_relisted gap entries hheader (by decide))]
    exact hword.1
  have hdirectory : LittleEndian.wordAt 16 (relisted gap entries data)
      = (Layout.headerLength + gap.length).toUInt32 := by
    rw [LittleEndian.wordAt_congr (take_drop_relisted gap entries hheader (by decide))]
    exact hword.2
  have hchecksum : LittleEndian.wordAt Layout.checksumOffset (relisted gap entries data)
      = Layout.checksum (relisted gap entries data) := by
    rw [relisted, Layout.wordAt_overwrite (le_length_file hheader _ _ _),
      Layout.checksum_overwrite (le_length_file hheader _ _ _)]
  rw [Header.ofBytes, Header.ofBytes, hversion, hflags, hfingerprint, hsections, hdirectory,
    hchecksum, Reader.toNat_toUInt32_of_lt (by omega), Reader.toNat_toUInt32_of_lt (by omega)]

/-- A section moves by as much as was put in before it. -/
theorem isMoved_movedBy {i : SectionInfo} (hbehind : Layout.headerLength ≤ i.offset)
    (hinside : i.offset + i.length ≤ data.length) :
    SectionInfo.IsMoved data (relisted gap entries data) i
      (i.movedBy (gap.length + entries.flatten.length)) := by
  refine ⟨rfl, ?_, ?_⟩
  · rw [length_relisted gap entries hheader]
    dsimp only [SectionInfo.movedBy]
    omega
  · obtain ⟨k, hk⟩ := Nat.exists_eq_add_of_le hbehind
    have hdrop : (relisted gap entries data).drop
        (i.offset + (gap.length + entries.flatten.length)) = data.drop i.offset := by
      rw [hk, Nat.add_assoc, ← List.drop_drop, drop_relisted gap entries hheader, Nat.add_comm k,
        ← List.drop_drop, ← List.length_append, List.drop_left, List.drop_drop]
    rw [SectionInfo.bytes, SectionInfo.bytes, SectionInfo.movedBy, hdrop]

end Relisted

/-- **A snapshot with another directory is a rearranged one**, where that lists the same sections,
moved by as much as was put in before them. -/
theorem isRearranged_relisted {s : Snapshot} {order : List SectionInfo} (hload : load data = .ok s)
    (hbehind : ∀ i ∈ listed data, Layout.headerLength ≤ i.offset)
    (hentries : ∀ entry ∈ entries, entry.length = Layout.entryLength)
    (horder : order.Perm (listed data))
    (hlisted : entries.filterMap (SectionInfo.ofBytes? · 0)
      = order.map (SectionInfo.movedBy (gap.length + entries.flatten.length)))
    (hlength : (relisted gap entries data).length < 2 ^ 32) :
    IsRearranged data (relisted gap entries data) := by
  obtain ⟨hread, -, hchecked, -⟩ := load_eq_ok_iff_listed.mp hload
  obtain ⟨-, hheader, -⟩ := Header.read_eq_ok_iff.mp hread
  have hflatten := length_flatten_entries hentries
  have hfields := ofBytes_relisted gap entries hheader hlength
    (by rw [hflatten]; exact Nat.le_mul_of_pos_right _ (by decide))
  have hdrop : (relisted gap entries data).drop (Layout.headerLength + gap.length)
      = entries.flatten ++ data.drop Layout.headerLength := by
    rw [← List.drop_drop, drop_relisted gap entries hheader, List.append_assoc, List.drop_left]
  have hmoved : listed (relisted gap entries data)
      = order.map (SectionInfo.movedBy (gap.length + entries.flatten.length)) := by
    rw [listed, places, hfields, ← hlisted]
    exact SectionInfo.filterMap_ofBytes?_flatten hentries hdrop
  constructor
  case room =>
    rw [length_relisted gap entries hheader]
    omega
  case magic =>
    have htake := take_drop_relisted gap entries hheader
      (show 0 + Layout.magic.length ≤ Layout.checksumOffset by decide)
    rw [take_drop_headerFor _ _ hheader (by decide) (.inl (by decide))] at htake
    exact htake
  case version => rw [hfields]
  case flags => rw [hfields]
  case fingerprint => rw [hfields]
  case checksum =>
    intro _
    rw [hfields]
  case inside =>
    rw [hfields, length_relisted gap entries hheader, hflatten]
    dsimp only
    omega
  case sections =>
    refine ⟨order, horder, ?_⟩
    rw [hmoved, List.forall₂_map_right_iff, List.forall₂_same]
    intro i hi
    have hi := horder.mem_iff.mp hi
    exact isMoved_movedBy gap entries hheader (hbehind i hi) (hchecked i hi).1

/-- What the directory of a snapshot says of each section, with the section. -/
def placed (sections : List SectionData) : List (SectionInfo × SectionData) :=
  (SectionData.infos (firstOffset sections) sections).zip sections

theorem map_fst_placed {sections : List SectionData} (h : (assemble sections).length < 2 ^ 32) :
    (placed sections).map Prod.fst = listed (assemble sections) := by
  have hlength := congrArg List.length (SectionData.map_part_infos (firstOffset sections) sections)
  rw [List.length_map, List.length_map] at hlength
  rw [listed_assemble h, placed, List.map_fst_zip (Nat.le_of_eq hlength)]

theorem eq_info_of_mem_placed {sections : List SectionData} {p : SectionInfo × SectionData}
    (hp : p ∈ placed sections) : p.1 = p.2.info p.1.offset := by
  obtain ⟨front, hdata, hfront⟩ := exists_front_assemble sections
  have h := (List.forall₂_iff_zip.mp (SectionData.forall₂_infos hdata hfront)).2 hp
  exact h.1

/-- **The sections of a snapshot in another order**, behind an entry of an unknown kind. -/
theorem isRearranged_assemble {sections : List SectionData} {unknown : List UInt8}
    {order : List (SectionInfo × SectionData)} (horder : order.Perm (placed sections))
    (hunknown : unknown.length = Layout.entryLength) (hkind : SectionInfo.ofBytes? unknown 0 = none)
    (gap : List UInt8) {distance : Nat}
    (hdistance : distance = gap.length + (order.length + 1) * Layout.entryLength)
    (hlength : (assemble sections).length + distance < 2 ^ 32) :
    IsRearranged (assemble sections) (relisted gap
      (unknown :: order.map fun p => p.2.entry (p.1.offset + distance)) (assemble sections)) := by
  have hload : load (assemble sections) = .ok (loaded sections) := load_assemble (by omega)
  obtain ⟨hread, -, hchecked, -⟩ := load_eq_ok_iff_listed.mp hload
  have hlisted : (placed sections).map Prod.fst = listed (assemble sections) :=
    map_fst_placed (by omega)
  have hperm : (order.map Prod.fst).Perm (listed (assemble sections)) := hlisted ▸ horder.map _
  have hentries : ∀ entry ∈ unknown :: order.map fun p => p.2.entry (p.1.offset + distance),
      entry.length = Layout.entryLength := by
    refine List.forall_mem_cons.mpr ⟨hunknown, fun entry hentry => ?_⟩
    obtain ⟨p, -, rfl⟩ := List.mem_map.mp hentry
    rfl
  have hread : (order.map fun p => p.2.entry (p.1.offset + distance)).filterMap
      (SectionInfo.ofBytes? · 0) = (order.map Prod.fst).map (SectionInfo.movedBy distance) := by
    refine SectionInfo.filterMap_ofBytes?_entry fun p hp => ?_
    have hp := horder.mem_iff.mp hp
    have hinside := (hchecked p.1 (hlisted ▸ List.mem_map_of_mem hp)).1
    exact ⟨eq_info_of_mem_placed hp, by omega⟩
  have hflatten := length_flatten_entries hentries
  rw [List.length_cons, List.length_map] at hflatten
  refine isRearranged_relisted hload ?_ hentries hperm ?_ ?_
  · rw [listed_assemble (by omega)]
    exact fun i hi => Nat.le_trans (Nat.le_add_right ..) (SectionData.le_offset_of_mem_infos hi)
  · rw [List.filterMap_cons, hkind, hflatten, ← hdistance]
    exact hread
  · rw [length_relisted _ _ (headerLength_le_length sections), hflatten, Nat.add_assoc, ← hdistance]
    exact hlength

end Snapshot

end Blocklist
