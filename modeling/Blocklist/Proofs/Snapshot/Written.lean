import Blocklist.Snapshot.Write
/-!
# Snapshots — what is written over zeros

A snapshot is a file of zeros with every piece written at its own place. No
piece comes to lie on another, so in the end the pieces stand one after the
other, with zeros between them (`assemble_eq`).
-/

namespace Blocklist

namespace Layout

variable {front old written back : List UInt8} {offset : Nat}

/-- What is written takes the place of as many bytes. -/
theorem overwrite_append (hlength : written.length = old.length) (front back : List UInt8) :
    overwrite front.length written (front ++ old ++ back) = front ++ written ++ back := by
  have htake : (front ++ old ++ back).take front.length = front := by
    rw [List.append_assoc, List.take_left]
  have hdrop : (front ++ old ++ back).drop (front.length + old.length) = back := by
    rw [← List.length_append, List.drop_left]
  rw [overwrite, hlength, htake, hdrop]

theorem alignment_dvd_align (offset : Nat) : alignment ∣ align alignment offset := by
  rw [align_eq]
  exact Nat.dvd_mul_left ..

/-- Beyond a multiple, rounding up does not depend on where one is. -/
theorem align_add (h : alignment ∣ offset) (n : Nat) :
    align alignment (offset + n) = offset + align alignment n := by
  rw [align_eq, align_eq]
  simp only [alignment] at h
  omega

end Layout

namespace SectionData

variable {s : SectionData} {sections : List SectionData} {offset place : Nat}

/-- The bytes of a section with zeros up to where the next one may begin. -/
def padded (s : SectionData) : List UInt8 :=
  let length := s.bytes.length
  s.bytes ++ List.replicate (Layout.align Layout.alignment length - length) 0

/-- The entry of a section that begins at `offset`, to the last byte. -/
def entry (offset : Nat) (s : SectionData) : List UInt8 := s.fields offset ++ List.replicate 4 0

/-- The entries of sections of which the first begins at `offset`. -/
def directory (offset : Nat) : List SectionData → List UInt8
  | [] => []
  | s :: sections => s.entry offset ++ directory (offset + s.padded.length) sections

@[simp] theorem length_entry (offset : Nat) (s : SectionData) :
    (s.entry offset).length = Layout.entryLength := rfl

@[simp] theorem length_padded (s : SectionData) :
    s.padded.length = Layout.align Layout.alignment s.bytes.length := by
  have hle := Layout.le_align s.bytes.length
  rw [padded, List.length_append, List.length_replicate]
  omega

theorem alignment_dvd_length_padded (s : SectionData) : Layout.alignment ∣ s.padded.length := by
  rw [length_padded]
  exact Layout.alignment_dvd_align _

/-- The next section begins where the padding of this one ends. -/
theorem next_eq (h : Layout.alignment ∣ offset) (s : SectionData) :
    s.next offset = offset + s.padded.length := by
  rw [next, Layout.align_add h, length_padded]

theorem alignment_dvd_next (h : Layout.alignment ∣ offset) (s : SectionData) :
    Layout.alignment ∣ offset + s.padded.length :=
  Nat.dvd_add h (alignment_dvd_length_padded s)

theorem stop_eq (h : Layout.alignment ∣ offset) (sections : List SectionData) :
    stop offset sections = offset + (sections.flatMap padded).length := by
  induction sections generalizing offset with
  | nil => rfl
  | cons s sections ih =>
    have hrest := ih (alignment_dvd_next h s)
    rw [stop] at hrest
    rw [stop, List.foldl_cons, next_eq h, hrest, List.flatMap_cons, List.length_append]
    omega

/-! ## One section after the other -/

/-- A section and the fields of its entry are written at their places. -/
theorem overwrite_section {front zeros middle back : List UInt8} (hplace : front.length = place)
    (hoffset : (front ++ s.entry offset ++ zeros ++ middle).length = offset) :
    Layout.overwrite offset s.bytes (Layout.overwrite place (s.fields offset)
        (front ++ (List.replicate Layout.entryLength 0 ++ zeros) ++ middle
          ++ (List.replicate s.padded.length 0 ++ back)))
      = front ++ s.entry offset ++ zeros ++ (middle ++ s.padded) ++ back := by
  have hfields : Layout.overwrite place (s.fields offset)
      (front ++ (List.replicate Layout.entryLength 0 ++ zeros) ++ middle
        ++ (List.replicate s.padded.length 0 ++ back))
      = front ++ s.entry offset ++ zeros ++ middle
        ++ (List.replicate s.padded.length 0 ++ back) := by
    have hlength : (s.fields offset).length = (List.replicate 20 (0 : UInt8)).length := rfl
    have hwritten := Layout.overwrite_append hlength front
      (List.replicate 4 0 ++ zeros ++ middle ++ (List.replicate s.padded.length 0 ++ back))
    have hzeros : (List.replicate Layout.entryLength 0 : List UInt8)
        = List.replicate 20 0 ++ List.replicate 4 0 := rfl
    rw [hplace] at hwritten
    simp only [entry, hzeros, List.append_assoc] at hwritten ⊢
    exact hwritten
  have hlength : s.bytes.length = (List.replicate s.bytes.length (0 : UInt8)).length :=
    List.length_replicate.symm
  have hbytes := Layout.overwrite_append hlength
    (front ++ s.entry offset ++ zeros ++ middle)
    (List.replicate (Layout.align Layout.alignment s.bytes.length - s.bytes.length) 0 ++ back)
  have hzeros : (List.replicate s.padded.length 0 : List UInt8)
      = List.replicate s.bytes.length 0
        ++ List.replicate (Layout.align Layout.alignment s.bytes.length - s.bytes.length) 0 := by
    rw [List.replicate_append_replicate, ← List.length_replicate
      (n := Layout.align Layout.alignment s.bytes.length - s.bytes.length) (a := (0 : UInt8)),
      ← List.length_append]
    rfl
  rw [hoffset] at hbytes
  rw [hfields, hzeros]
  simp only [padded, List.append_assoc] at hbytes ⊢
  exact hbytes

/-- **Sections fill the zeros that are kept for them**, behind their entries. -/
theorem fill_zeros {front middle : List UInt8} (haligned : Layout.alignment ∣ offset)
    (hplace : front.length = place)
    (hoffset : (front ++ List.replicate (sections.length * Layout.entryLength) 0 ++ middle).length
      = offset) :
    fill place ((offsets offset sections).zip sections)
        (front ++ List.replicate (sections.length * Layout.entryLength) 0 ++ middle
          ++ List.replicate (sections.flatMap padded).length 0)
      = front ++ directory offset sections ++ middle ++ sections.flatMap padded := by
  -- an entry moves from the zeros to what is before them, and a section to what is behind
  induction sections generalizing front middle place offset with
  | nil => simp [fill, offsets, directory]
  | cons s sections ih =>
    have hentries : (List.replicate ((s :: sections).length * Layout.entryLength) 0 : List UInt8)
        = List.replicate Layout.entryLength 0
          ++ List.replicate (sections.length * Layout.entryLength) 0 := by
      rw [List.replicate_append_replicate, List.length_cons, Nat.succ_mul, Nat.add_comm]
    have hsections : (List.replicate ((s :: sections).flatMap padded).length 0 : List UInt8)
        = List.replicate s.padded.length 0
          ++ List.replicate (sections.flatMap padded).length 0 := by
      rw [List.replicate_append_replicate, List.flatMap_cons, List.length_append]
    have hoffset' : (front ++ s.entry offset
        ++ List.replicate (sections.length * Layout.entryLength) 0 ++ middle).length = offset := by
      rw [← hoffset, hentries]
      simp only [List.length_append, List.length_replicate, length_entry]
      omega
    have hplace' : (front ++ s.entry offset).length = place + Layout.entryLength := by
      rw [List.length_append, hplace, length_entry]
    have hnext : (front ++ s.entry offset
        ++ List.replicate (sections.length * Layout.entryLength) 0 ++ (middle ++ s.padded)).length
          = offset + s.padded.length := by
      rw [← List.append_assoc, List.length_append, hoffset']
    rw [offsets, List.zip_cons_cons, fill, hentries, hsections,
      overwrite_section hplace hoffset', next_eq haligned,
      ih (alignment_dvd_next haligned s) hplace' hnext, directory, List.flatMap_cons]
    simp only [List.append_assoc]

end SectionData

namespace Snapshot

variable {sections : List SectionData}

/-- Where the first section begins. -/
def firstOffset (sections : List SectionData) : Nat :=
  Layout.headerLength + sections.length * Layout.entryLength

/-- What follows the checksum: the rest of the header, the directory and the sections. -/
def body (sections : List SectionData) : List UInt8 :=
  List.replicate 32 0
    ++ SectionData.directory (firstOffset sections) sections
    ++ sections.flatMap SectionData.padded

/-- The checksum of some sections. -/
def checksumOf (sections : List SectionData) : UInt32 :=
  crc32 (headerStart sections.length ++ body sections)

@[simp] theorem length_headerStart (n : Nat) : (headerStart n).length = Layout.checksumOffset := rfl

theorem alignment_dvd_firstOffset (sections : List SectionData) :
    Layout.alignment ∣ firstOffset sections := by
  simp only [firstOffset, Layout.alignment, Layout.headerLength, Layout.entryLength]
  omega

theorem align_firstOffset (sections : List SectionData) :
    Layout.align Layout.alignment (firstOffset sections) = firstOffset sections :=
  Layout.align_add (alignment_dvd_firstOffset sections) 0

/-- The zeros that are kept for the rest of the header, the directory and the sections. -/
def blank (sections : List SectionData) : List UInt8 :=
  List.replicate 36 0
    ++ List.replicate (sections.length * Layout.entryLength) 0
    ++ List.replicate (sections.flatMap SectionData.padded).length 0

theorem stop_firstOffset (sections : List SectionData) :
    SectionData.stop (firstOffset sections) sections = Layout.checksumOffset
      + (36 + sections.length * Layout.entryLength
        + (sections.flatMap SectionData.padded).length) := by
  rw [SectionData.stop_eq (alignment_dvd_firstOffset sections), firstOffset]
  simp only [Layout.headerLength, Layout.checksumOffset]
  omega

theorem replicate_stop (sections : List SectionData) :
    (List.replicate (SectionData.stop (firstOffset sections) sections) 0 : List UInt8)
      = [] ++ List.replicate Layout.checksumOffset 0 ++ blank sections := by
  rw [stop_firstOffset, List.nil_append, blank, List.replicate_append_replicate,
    List.replicate_append_replicate, List.replicate_append_replicate]

/-- The header goes before the zeros that are kept for the rest. -/
theorem overwrite_headerStart (sections : List SectionData) :
    Layout.overwrite 0 (headerStart sections.length)
        (List.replicate (SectionData.stop (firstOffset sections) sections) 0)
      = headerStart sections.length ++ blank sections := by
  have hlength : (headerStart sections.length).length
      = (List.replicate Layout.checksumOffset 0 : List UInt8).length := by
    rw [length_headerStart, List.length_replicate]
  have hwritten := Layout.overwrite_append hlength [] (blank sections)
  rw [List.nil_append (headerStart _), List.length_nil] at hwritten
  rw [replicate_stop, hwritten]

/-- The directory and the sections fill the zeros that are kept for them. -/
theorem fill_blank (sections : List SectionData) :
    SectionData.fill Layout.headerLength
        ((SectionData.offsets (firstOffset sections) sections).zip sections)
        (headerStart sections.length ++ blank sections)
      = headerStart sections.length ++ List.replicate 4 0 ++ body sections := by
  have hfront : (headerStart sections.length ++ List.replicate 36 0).length
      = Layout.headerLength := by
    rw [List.length_append, List.length_replicate, length_headerStart]
    rfl
  have hoffset : (headerStart sections.length ++ List.replicate 36 0
      ++ List.replicate (sections.length * Layout.entryLength) 0 ++ []).length
      = firstOffset sections := by
    rw [List.append_nil, List.length_append, hfront, List.length_replicate, firstOffset]
  have hfill := SectionData.fill_zeros (alignment_dvd_firstOffset sections) hfront hoffset
  have hreserved : (List.replicate 36 0 : List UInt8) = List.replicate 4 0 ++ List.replicate 32 0 :=
    rfl
  rw [List.append_nil, List.append_nil] at hfill
  calc _ = SectionData.fill Layout.headerLength
          ((SectionData.offsets (firstOffset sections) sections).zip sections)
          (headerStart sections.length ++ List.replicate 36 0
            ++ List.replicate (sections.length * Layout.entryLength) 0
            ++ List.replicate (sections.flatMap SectionData.padded).length 0) := by
        rw [blank, List.append_assoc, List.append_assoc, List.append_assoc]
    _ = _ := hfill
    _ = _ := by
        rw [hreserved, body]
        simp only [List.append_assoc]

/-- **A snapshot is its pieces, one after the other.** -/
theorem assemble_eq (sections : List SectionData) :
    assemble sections = headerStart sections.length
      ++ (LittleEndian.ofWord (checksumOf sections) ++ body sections) := by
  have hchecksum : Layout.checksum (headerStart sections.length ++ List.replicate 4 0
      ++ body sections) = checksumOf sections := by
    rw [Layout.checksum, List.append_assoc, List.take_left' (length_headerStart _), checksumOf,
      ← List.drop_drop, List.drop_left' (length_headerStart _)]
    rfl
  have hlength : (LittleEndian.ofWord (checksumOf sections)).length
      = (List.replicate 4 (0 : UInt8)).length := rfl
  have hwritten :=
    Layout.overwrite_append hlength (headerStart sections.length) (body sections)
  rw [length_headerStart, List.append_assoc (headerStart _) (LittleEndian.ofWord _)] at hwritten
  have hfirst : Layout.headerLength + sections.length * Layout.entryLength = firstOffset sections :=
    rfl
  rw [assemble, hfirst, align_firstOffset, overwrite_headerStart, fill_blank, hchecksum, hwritten]

end Snapshot

end Blocklist
