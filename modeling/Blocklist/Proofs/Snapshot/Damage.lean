import Blocklist.Proofs.Hash.Crc32
import Blocklist.Proofs.Snapshot.RoundTrip
/-!
# Snapshots — damage is not passed over

A snapshot with up to four bytes in a row overwritten, or without its end,
is refused or gives the engine that it was made of (`ofSnapshot_damaged`).
Most damage the checksum catches; what the checksum does not cover, or could
be switched off for, is damage that no section and no entry of the directory
is touched by (`eq_of_ofSnapshot_of_drop`).
-/

namespace Blocklist

variable {data damaged : List UInt8}

/-! ## Fields -/

theorem take_drop_congr {α : Type} {first second : List α} {place n k m : Nat}
    (h : (first.drop place).take n = (second.drop place).take n) (hle : k + m ≤ n) :
    (first.drop (place + k)).take m = (second.drop (place + k)).take m := by
  have hpart : ∀ list : List α, (list.drop (place + k)).take m
      = ((((list.drop place).take n).drop k).take m) := by
    intro list
    rw [List.drop_take, List.take_take, List.drop_drop, Nat.min_eq_left (by omega)]
  rw [hpart, hpart, h]

namespace LittleEndian

/-- A number depends on its own bytes alone. -/
theorem wordAt_take (offset : Nat) (data : List UInt8) :
    wordAt offset data = wordAt 0 ((data.drop offset).take 4) := by
  unfold wordAt
  match data.drop offset with
  | [] => rfl
  | [_] => rfl
  | [_, _] => rfl
  | [_, _, _] => rfl
  | _ :: _ :: _ :: _ :: _ => rfl

theorem halfAt_take (offset : Nat) (data : List UInt8) :
    halfAt offset data = halfAt 0 ((data.drop offset).take 2) := by
  unfold halfAt
  match data.drop offset with
  | [] => rfl
  | [_] => rfl
  | _ :: _ :: _ => rfl

theorem wordAt_congr {offset : Nat}
    (h : (data.drop offset).take 4 = (damaged.drop offset).take 4) :
    wordAt offset data = wordAt offset damaged := by
  rw [wordAt_take, h, ← wordAt_take]

theorem halfAt_congr {offset : Nat}
    (h : (data.drop offset).take 2 = (damaged.drop offset).take 2) :
    halfAt offset data = halfAt offset damaged := by
  rw [halfAt_take, h, ← halfAt_take]

end LittleEndian

/-- So does an entry of the directory. -/
theorem SectionInfo.ofBytes?_congr {place : Nat}
    (h : (data.drop place).take Layout.entryLength = (damaged.drop place).take Layout.entryLength) :
    SectionInfo.ofBytes? data place = SectionInfo.ofBytes? damaged place := by
  have hword : ∀ k, k + 4 ≤ Layout.entryLength →
      LittleEndian.wordAt (place + k) data = LittleEndian.wordAt (place + k) damaged :=
    fun k hk => LittleEndian.wordAt_congr (take_drop_congr h hk)
  have hhalf : ∀ k, k + 2 ≤ Layout.entryLength →
      LittleEndian.halfAt (place + k) data = LittleEndian.halfAt (place + k) damaged :=
    fun k hk => LittleEndian.halfAt_congr (take_drop_congr h hk)
  have hpart : LittleEndian.halfAt place data = LittleEndian.halfAt place damaged :=
    hhalf 0 (by decide)
  rw [SectionInfo.ofBytes?, SectionInfo.ofBytes?, hpart, hhalf 2 (by decide),
    hword 4 (by decide), hword 8 (by decide), hword 12 (by decide), hword 16 (by decide)]

/-! ## Sections untouched -/

/-- What lies beyond the header and is still there, is as it was. -/
theorem drop_take_eq {tail : List UInt8} {place n : Nat}
    (hdrop : data.drop Layout.headerLength = damaged.drop Layout.headerLength ++ tail)
    (hplace : Layout.headerLength ≤ place) (hroom : place + n ≤ damaged.length) :
    (data.drop place).take n = (damaged.drop place).take n := by
  obtain ⟨k, rfl⟩ := Nat.exists_eq_add_of_le hplace
  rw [← List.drop_drop, hdrop, List.drop_append_of_le_length (by rw [List.length_drop]; omega),
    List.drop_drop, List.take_append_of_le_length (by rw [List.length_drop]; omega)]

/-- **What has the directory and the sections of a snapshot, or their beginning, is loaded as the
snapshot is**, where it is loaded. -/
theorem Snapshot.engine_eq_of_load {sections : List SectionData} {tail : List UInt8} {s : Snapshot}
    (hlength : (assemble sections).length < 2 ^ 32)
    (hdrop : (assemble sections).drop Layout.headerLength
      = damaged.drop Layout.headerLength ++ tail)
    (hcount : LittleEndian.wordAt 12 damaged = LittleEndian.wordAt 12 (assemble sections))
    (hdirectory : LittleEndian.wordAt 16 damaged = LittleEndian.wordAt 16 (assemble sections))
    (h : load damaged = .ok s) : s.engine = (loaded sections).engine := by
  obtain ⟨header, entries, hheader, hroom, hentries, rfl⟩ := load_eq_ok_iff.mp h
  obtain ⟨header', entries', hheader', hroom', hentries', hloaded⟩ :=
    load_eq_ok_iff.mp (load_assemble hlength)
  obtain ⟨hentries, hchecked⟩ := SectionInfo.mapM_read_eq_ok_iff.mp hentries
  obtain ⟨hentries', -⟩ := SectionInfo.mapM_read_eq_ok_iff.mp hentries'
  have hfields : header.sections = header'.sections ∧ header.directory = header'.directory := by
    rw [(Header.read_eq_ok_iff.mp hheader).1, (Header.read_eq_ok_iff.mp hheader').1]
    exact ⟨congrArg UInt32.toNat hcount, congrArg UInt32.toNat hdirectory⟩
  have hbegin : header'.directory = Layout.headerLength := by
    rw [show header' = headerOf sections from (congrArg Snapshot.header hloaded).symm]
    rfl
  -- every entry lies beyond the header, so it is as it was
  have hplace : ∀ place ∈ places header, SectionInfo.ofBytes? damaged place
      = SectionInfo.ofBytes? (assemble sections) place := by
    intro place hmem
    obtain ⟨n, hn, rfl⟩ := List.mem_map.mp hmem
    have hn := List.mem_range.mp hn
    have hinside : (n + 1) * Layout.entryLength ≤ header.sections * Layout.entryLength :=
      Nat.mul_le_mul_right _ hn
    rw [Nat.succ_mul] at hinside
    exact (SectionInfo.ofBytes?_congr (drop_take_eq hdrop (by omega) (by omega))).symm
  have hsame : entries = entries' := by
    rw [hentries, hentries', List.map_congr_left hplace, places, places, hfields.1, hfields.2]
  have hsections : (loaded sections).sections = entries'.filterMap fun entry => entry :=
    congrArg Snapshot.sections hloaded
  refine engine_congr (hsame ▸ hsections.symm) fun i hi => ?_
  -- every section was found to lie within the bytes that are there
  have hmem : some i ∈ entries := by
    rw [hsections] at hi
    obtain ⟨entry, hentry, rfl⟩ := List.mem_filterMap.mp hi
    exact hsame ▸ hentry
  have hoffset : Layout.headerLength ≤ i.offset :=
    Nat.le_trans (Nat.le_add_right ..) (SectionData.le_offset_of_mem_infos hi)
  exact (drop_take_eq hdrop hoffset (hchecked i hmem).1).symm

/-! ## A window -/

section Window

variable {front window written back : List UInt8}

theorem drop_append_back {n : Nat} (hn : front.length + window.length ≤ n) :
    (front ++ window ++ back).drop n = back.drop (n - (front.length + window.length)) := by
  rw [List.drop_append, List.length_append, List.drop_eq_nil_of_le (by rwa [List.length_append]),
    List.nil_append]

theorem take_append_back {n : Nat} (hn : front.length + window.length ≤ n) :
    (front ++ window ++ back).take n
      = front ++ window ++ back.take (n - (front.length + window.length)) := by
  rw [List.take_append, List.length_append, List.take_of_length_le (by rwa [List.length_append])]

/-- Beyond a window everything is as it was. -/
theorem drop_window (hlength : written.length = window.length) {n : Nat}
    (hn : front.length + window.length ≤ n) :
    (front ++ written ++ back).drop n = (front ++ window ++ back).drop n := by
  rw [drop_append_back (by rwa [hlength]), drop_append_back hn, hlength]

/-- Bytes that a window does not touch are as they were. -/
theorem take_drop_window (hlength : written.length = window.length) {place n : Nat}
    (hclear : place + n ≤ front.length ∨ front.length + window.length ≤ place) :
    ((front ++ written ++ back).drop place).take n
      = ((front ++ window ++ back).drop place).take n := by
  rcases hclear with hbefore | hbeyond
  · have hfront : ∀ middle : List UInt8,
        ((front ++ middle ++ back).drop place).take n = (front.drop place).take n := by
      intro middle
      rw [List.append_assoc, List.drop_append_of_le_length (by omega),
        List.take_append_of_le_length (by rw [List.length_drop]; omega)]
    rw [hfront, hfront]
  · rw [drop_window hlength hbeyond]

/-- **The checksum sees a window** of up to four bytes that does not touch the checksum itself. -/
theorem checksum_window_ne (hlength : written.length = window.length) (hfour : window.length ≤ 4)
    (hclear : front.length + window.length ≤ Layout.checksumOffset
      ∨ Layout.checksumOffset + 4 ≤ front.length) (hne : written ≠ window) :
    Layout.checksum (front ++ written ++ back) ≠ Layout.checksum (front ++ window ++ back) := by
  -- the checksum leaves itself out, so the window is in one piece of what it covers
  rcases hclear with hbefore | hbeyond
  · have hpart : ∀ middle : List UInt8, middle.length = window.length →
        Layout.checksum (front ++ middle ++ back) = crc32 (front ++ middle
          ++ (back.take (Layout.checksumOffset - (front.length + window.length))
            ++ back.drop (Layout.checksumOffset + 4 - (front.length + window.length)))) := by
      intro middle hmiddle
      rw [Layout.checksum, take_append_back (by rwa [hmiddle]),
        drop_append_back (by rw [hmiddle]; omega), hmiddle, List.append_assoc (front ++ middle)]
    rw [hpart written hlength, hpart window rfl]
    exact crc32_ne_of_ne hlength (hlength ▸ hfour) hne
  · have hpart : ∀ middle : List UInt8, Layout.checksum (front ++ middle ++ back)
        = crc32 (front.take Layout.checksumOffset ++ front.drop (Layout.checksumOffset + 4)
          ++ middle ++ back) := by
      intro middle
      rw [Layout.checksum, List.append_assoc front, List.take_append_of_le_length (by omega),
        List.drop_append_of_le_length hbeyond]
      simp only [List.append_assoc]
    rw [hpart, hpart]
    exact crc32_ne_of_ne hlength (hlength ▸ hfour) hne

end Window

/-! ## Damaged snapshots -/

namespace Engine

variable {e loaded : Engine}

/-- **Damage that leaves directory and sections alone**, or takes some of the end away, gives the
same engine or none. -/
theorem eq_of_ofSnapshot_of_drop {tail : List UInt8} (hsound : e.IsSound)
    (hlength : e.snapshot.length < 2 ^ 32)
    (hdrop : e.snapshot.drop Layout.headerLength = damaged.drop Layout.headerLength ++ tail)
    (hcount : LittleEndian.wordAt 12 damaged = LittleEndian.wordAt 12 e.snapshot)
    (hdirectory : LittleEndian.wordAt 16 damaged = LittleEndian.wordAt 16 e.snapshot)
    (h : Engine.ofSnapshot damaged = .ok loaded) : loaded = e := by
  obtain ⟨s, hload, hengine⟩ := Engine.ofSnapshot_eq_ok_iff.mp h
  obtain ⟨t, hwhole, hwholeEngine⟩ :=
    Engine.ofSnapshot_eq_ok_iff.mp (ofSnapshot_snapshot hsound hlength)
  rw [Snapshot.engine_eq_of_load hlength hdrop hcount hdirectory hload] at hengine
  rw [snapshot, Snapshot.load_assemble hlength] at hwhole
  obtain rfl := Except.ok.inj hwhole
  exact Except.ok.inj (hengine.symm.trans hwholeEngine)

/-- **Where the checksum is in force**, a window that it covers is overwritten with itself or the
snapshot is refused. -/
theorem eq_of_ofSnapshot_window {front window written back : List UInt8}
    (hdata : e.snapshot = front ++ window ++ back) (hlength : written.length = window.length)
    (hfour : window.length ≤ 4)
    (hflags : front.length + window.length ≤ 6 ∨ 8 ≤ front.length)
    (hclear : front.length + window.length ≤ Layout.checksumOffset
      ∨ Layout.checksumOffset + 4 ≤ front.length)
    (h : Engine.ofSnapshot (front ++ written ++ back) = .ok loaded) : written = window := by
  obtain ⟨s, hload, -⟩ := Engine.ofSnapshot_eq_ok_iff.mp h
  obtain ⟨header, -, hheader, -⟩ := Snapshot.load_eq_ok_iff.mp hload
  obtain ⟨rfl, -, -, -, -, hchecksum⟩ := Header.read_eq_ok_iff.mp hheader
  have hwhole : Header.ofBytes e.snapshot = Snapshot.headerOf (SectionData.ofEngine e) :=
    Snapshot.ofBytes_assemble (show 8 < 2 ^ 32 by decide)
  have hflag : (Header.ofBytes (front ++ written ++ back)).flags = Layout.hasChecksum := by
    have hsame : (Header.ofBytes (front ++ written ++ back)).flags
        = (Header.ofBytes e.snapshot).flags := by
      rw [hdata]
      exact LittleEndian.halfAt_congr (take_drop_window hlength hflags.symm)
    rw [hsame, hwhole]
    rfl
  have hstored : (Header.ofBytes (front ++ written ++ back)).checksum
      = Layout.checksum (front ++ window ++ back) := by
    have hsame : (Header.ofBytes (front ++ written ++ back)).checksum
        = (Header.ofBytes e.snapshot).checksum := by
      rw [hdata]
      exact LittleEndian.wordAt_congr (take_drop_window hlength hclear.symm)
    rw [hsame, hwhole, ← hdata, snapshot, Snapshot.checksum_assemble]
    rfl
  have hagree : Layout.checksum (front ++ window ++ back)
      = Layout.checksum (front ++ written ++ back) := by
    rw [← hstored]
    exact hchecksum (by rw [hflag]; decide)
  by_cases hsame : written = window
  · exact hsame
  · exact absurd hagree.symm (checksum_window_ne hlength hfour hclear hsame)

/-- **A snapshot with a window overwritten** gives the same engine or none. -/
theorem eq_of_ofSnapshot_overwritten {front window written back : List UInt8} (hsound : e.IsSound)
    (hsize : e.snapshot.length < 2 ^ 32) (hdata : e.snapshot = front ++ window ++ back)
    (hlength : written.length = window.length) (hfour : window.length ≤ 4)
    (h : Engine.ofSnapshot (front ++ written ++ back) = .ok loaded) : loaded = e := by
  by_cases haside : front.length + window.length ≤ 12
      ∨ (20 ≤ front.length ∧ front.length + window.length ≤ Layout.headerLength)
  · -- the window lies in the header, and not where that tells of the directory
    have hhead : front.length + window.length ≤ Layout.headerLength := by
      simp only [Layout.headerLength] at *
      omega
    have hword : ∀ place, 12 ≤ place → place + 4 ≤ 20 →
        LittleEndian.wordAt place (front ++ written ++ back)
          = LittleEndian.wordAt place e.snapshot := by
      intro place hle hplace
      rw [hdata]
      exact LittleEndian.wordAt_congr (take_drop_window hlength (by omega))
    have hdrop : e.snapshot.drop Layout.headerLength
        = (front ++ written ++ back).drop Layout.headerLength ++ [] := by
      rw [List.append_nil, hdata, drop_window hlength hhead]
    exact eq_of_ofSnapshot_of_drop hsound hsize hdrop (hword 12 (by omega) (by omega))
      (hword 16 (by omega) (by omega)) h
  · -- anywhere else flags and checksum are as they were, so the checksum tells
    have hsame : written = window := by
      simp only [Layout.headerLength] at haside
      refine eq_of_ofSnapshot_window hdata hlength hfour (by omega) ?_ h
      show front.length + window.length ≤ 28 ∨ 28 + 4 ≤ front.length
      omega
    rw [hsame, ← hdata, ofSnapshot_snapshot hsound hsize] at h
    exact (Except.ok.inj h).symm

/-- **A snapshot without its end** gives the same engine or none. -/
theorem eq_of_ofSnapshot_cut {kept : List UInt8} (hsound : e.IsSound)
    (hsize : e.snapshot.length < 2 ^ 32) (hkept : kept <+: e.snapshot)
    (h : Engine.ofSnapshot kept = .ok loaded) : loaded = e := by
  obtain ⟨tail, htail⟩ := hkept
  obtain ⟨s, hload, -⟩ := Engine.ofSnapshot_eq_ok_iff.mp h
  obtain ⟨header, -, hheader, -⟩ := Snapshot.load_eq_ok_iff.mp hload
  obtain ⟨-, hroom, -⟩ := Header.read_eq_ok_iff.mp hheader
  have hword : ∀ place, place + 4 ≤ Layout.headerLength →
      LittleEndian.wordAt place kept = LittleEndian.wordAt place e.snapshot := by
    intro place hplace
    refine LittleEndian.wordAt_congr ?_
    rw [← htail, List.drop_append_of_le_length (by omega),
      List.take_append_of_le_length (by rw [List.length_drop]; omega)]
  have hdrop : e.snapshot.drop Layout.headerLength = kept.drop Layout.headerLength ++ tail := by
    rw [← htail, List.drop_append_of_le_length hroom]
  exact eq_of_ofSnapshot_of_drop hsound hsize hdrop (hword 12 (by decide)) (hword 16 (by decide)) h

/-- A result that can be but one value. -/
theorem error_or_ok {ε α : Type} {a : α} {result : Except ε α}
    (h : ∀ b, result = .ok b → b = a) : (∃ error, result = .error error) ∨ result = .ok a := by
  cases result with
  | error error => exact .inl ⟨error, rfl⟩
  | ok b => exact .inr (congrArg Except.ok (h b rfl))

/-- **No damage is passed over**: a snapshot of filters of which up to four bytes in a row were
overwritten, or of which the end is missing, is refused or gives all filters and indexes as they
were. -/
theorem ofSnapshot_damaged (network : List NetworkFilter) (cosmetic : List CosmeticFilter)
    (hknown : ∀ f ∈ cosmetic, f.mask.IsKnown)
    (hsize : (Engine.build network cosmetic).snapshot.length < 2 ^ 32) :
    (∀ front window written back : List UInt8,
      (Engine.build network cosmetic).snapshot = front ++ window ++ back →
      written.length = window.length → window.length ≤ 4 →
      (∃ error, Engine.ofSnapshot (front ++ written ++ back) = .error error)
        ∨ Engine.ofSnapshot (front ++ written ++ back) = .ok (Engine.build network cosmetic))
    ∧ ∀ kept : List UInt8, kept <+: (Engine.build network cosmetic).snapshot →
      (∃ error, Engine.ofSnapshot kept = .error error)
        ∨ Engine.ofSnapshot kept = .ok (Engine.build network cosmetic) := by
  have hsound := isSound_build network hknown
  constructor
  · intro front window written back hdata hlength hfour
    exact error_or_ok fun _ h =>
      eq_of_ofSnapshot_overwritten hsound hsize hdata hlength hfour h
  · intro kept hkept
    exact error_or_ok fun _ h => eq_of_ofSnapshot_cut hsound hsize hkept h

theorem ofSnapshot_damaged_full :
    let whole := (Engine.build [fullFilter] [unhideFilter]).snapshot
    unhideFilter.mask.IsKnown ∧ whole.length < 2 ^ 32
      ∧ ((∃ error, Engine.ofSnapshot ([] ++ [0] ++ whole.tail) = .error error)
        ∨ Engine.ofSnapshot ([] ++ [0] ++ whole.tail)
            = .ok (Engine.build [fullFilter] [unhideFilter]))
      ∧ ((∃ error, Engine.ofSnapshot whole.dropLast = .error error)
        ∨ Engine.ofSnapshot whole.dropLast = .ok (Engine.build [fullFilter] [unhideFilter])) := by
  intro whole
  obtain ⟨hoverwritten, hcut⟩ := ofSnapshot_damaged [fullFilter] [unhideFilter]
    isKnown_of_mem_unhideFilter length_snapshot_fullFilter
  have hhead : whole.head? = some 0x53 := congrArg List.head? (Snapshot.assemble_eq _)
  have hfirst : whole = [] ++ [0x53] ++ whole.tail := (List.cons_head?_tail hhead).symm
  exact ⟨isKnown_of_mem_unhideFilter _ (List.mem_singleton_self _), length_snapshot_fullFilter,
    hoverwritten [] [0x53] [0] whole.tail hfirst rfl (by decide),
    hcut whole.dropLast (List.dropLast_prefix whole)⟩

end Engine

end Blocklist
