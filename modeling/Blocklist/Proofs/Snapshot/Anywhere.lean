import Blocklist.Proofs.Snapshot.Rearranged
/-!
# Snapshots — the same sections read anywhere

Where a section begins goes into errors and into nothing else. So two readers
are compared that may have been given different places (`Reader.Alike`), with
one rule for each kind of step, and every reader is found to be alike to
itself. A section is then read as the same value from wherever its bytes are
(`Snapshot.readSection_of_bytes_eq`).

Main statement: a rearranged snapshot is accepted and gives the same engine
(`Engine.ofSnapshot_rearranged`).
-/

namespace Blocklist

variable {data moved : List UInt8}

namespace Reader

variable {α β : Type} {first second : Reader α} {next next' : α → Reader β}
variable {e e' : SnapshotError}

/-- Outcomes that differ in places alone: errors, or the same value with the same bytes left. -/
inductive SameOutcome {α : Type} :
    Except SnapshotError (α × Cursor) → Except SnapshotError (α × Cursor) → Prop where
  | error (e e' : SnapshotError) : SameOutcome (.error e) (.error e')
  | ok (a : α) (offset offset' : Nat) (rest : List UInt8) :
      SameOutcome (.ok (a, ⟨offset, rest⟩)) (.ok (a, ⟨offset', rest⟩))

/-- Whatever bytes they read and wherever each begins, the readers come to the same. -/
def Alike (first second : Reader α) : Prop :=
  ∀ offset offset' bytes, SameOutcome (first.run ⟨offset, bytes⟩) (second.run ⟨offset', bytes⟩)

/-! ## Rules -/

theorem Alike.pure (a : α) : Alike (Pure.pure a) (Pure.pure a) :=
  fun offset offset' bytes => .ok a offset offset' bytes

theorem Alike.throw (e e' : SnapshotError) :
    Alike (MonadExcept.throw e : Reader α) (MonadExcept.throw e') :=
  fun _ _ _ => .error e e'

/-- Nothing follows an error. -/
theorem Alike.throw_bind {failed failed' : β → Reader α} (e e' : SnapshotError) :
    Alike (MonadExcept.throw e >>= failed) (MonadExcept.throw e' >>= failed') :=
  fun _ _ _ => .error e e'

theorem Alike.bind (h : Alike first second) (hnext : ∀ a, Alike (next a) (next' a)) :
    Alike (first >>= next) (second >>= next') := by
  intro offset offset' bytes
  have hstep := h offset offset' bytes
  rw [StateT.run_bind, StateT.run_bind]
  generalize first.run ⟨offset, bytes⟩ = outcome at hstep
  generalize second.run ⟨offset', bytes⟩ = outcome' at hstep
  cases hstep with
  | error e e' => exact .error e e'
  | ok a reached reached' rest => exact hnext a reached reached' rest

/-- What follows may be given different places. -/
theorem Alike.here_bind {next next' : Nat → Reader β}
    (hnext : ∀ offset offset', Alike (next offset) (next' offset')) :
    Alike (here >>= next) (here >>= next') :=
  fun offset offset' bytes => hnext offset offset' offset offset' bytes

theorem Alike.ite {c : Prop} [Decidable c] {first' second' : Reader α}
    (hfirst : Alike first first') (hsecond : Alike second second') :
    Alike (if c then first else second) (if c then first' else second') := by
  split
  · exact hfirst
  · exact hsecond

/-- A check that does not look at places. -/
theorem Alike.guard {c : Prop} [Decidable c] {failed failed' : PUnit → Reader α}
    (h : Alike first second) :
    Alike (if c then MonadExcept.throw e >>= failed else first)
      (if c then MonadExcept.throw e' >>= failed' else second) :=
  Alike.ite (Alike.throw_bind e e') h

theorem Alike.map (h : Alike first second) (f : α → β) : Alike (f <$> first) (f <$> second) := by
  rw [map_eq_pure_bind, map_eq_pure_bind]
  exact h.bind fun a => Alike.pure (f a)

/-! ## Bytes -/

theorem alike_remaining : Alike remaining remaining :=
  fun offset offset' bytes => .ok bytes.length offset offset' bytes

theorem alike_byte : Alike byte byte := by
  rintro offset offset' (_ | ⟨b, rest⟩)
  · exact .error _ _
  · exact .ok b _ _ rest

theorem alike_bytes (n : Nat) : Alike (bytes n) (bytes n) := by
  intro offset offset' left
  rw [bytes, StateT.run_bind, StateT.run_bind, StateT.run_get, StateT.run_get, pure_bind,
    pure_bind]
  dsimp only
  split
  · exact .error _ _
  · exact .ok _ _ _ _

theorem alike_word : Alike word word :=
  (alike_bytes 4).bind fun _ => Alike.pure _

theorem alike_finish : Alike finish finish := by
  rintro offset offset' (_ | ⟨b, rest⟩)
  · exact .ok () offset offset' []
  · exact .error _ _

theorem alike_repeated (h : Alike first second) (n : Nat) :
    Alike (repeated first n) (repeated second n) := by
  induction n with
  | zero => exact Alike.pure []
  | succ n ih => exact h.bind fun a => ih.bind fun others => Alike.pure (a :: others)

/-! ## Numbers and positions -/

/-- Where a number begins is said in errors alone. -/
theorem alike_varintFrom (start start' more : Nat) :
    Alike (varintFrom start more) (varintFrom start' more) := by
  induction more with
  | zero => exact alike_byte.bind fun b => Alike.guard (Alike.pure _)
  | succ more ih =>
    exact alike_byte.bind fun b => Alike.ite (Alike.pure _) (ih.bind fun n => Alike.pure _)

theorem alike_varint : Alike varint varint :=
  Alike.here_bind fun start start' => alike_varintFrom start start' 4

theorem alike_positionsFrom (limit : Nat) (previous : Option Nat) (n : Nat) :
    Alike (positionsFrom limit previous n) (positionsFrom limit previous n) := by
  induction n generalizing previous with
  | zero => exact Alike.pure []
  | succ n ih =>
    unfold positionsFrom
    refine Alike.here_bind fun offset offset' => alike_varint.bind fun step => ?_
    refine Alike.guard (Alike.guard (Alike.guard ?_))
    exact (ih _).bind fun positions => Alike.pure _

theorem alike_postings (limit : Nat) : Alike (postings limit) (postings limit) := by
  refine alike_varint.bind fun count => alike_remaining.bind fun left => ?_
  refine Alike.ite ?_ (alike_positionsFrom limit none count)
  exact Alike.here_bind fun offset offset' => Alike.throw_bind _ _

theorem alike_count : Alike count count :=
  Alike.here_bind fun _ _ => alike_varint.bind fun n => alike_remaining.bind fun _ =>
    Alike.guard (Alike.pure n)

/-! ## Records -/

theorem alike_text (book : Codebook) : Alike (text book) (text book) := by
  refine alike_varint.bind fun length => Alike.here_bind fun offset offset' => ?_
  refine (alike_bytes length).bind fun codes => ?_
  cases book.decode codes with
  | ok s => exact Alike.pure s
  | error reason => exact Alike.throw _ _

theorem alike_text? (book : Codebook) (present : Bool) :
    Alike (text? book present) (text? book present) :=
  Alike.ite ((alike_text book).map some) (Alike.pure none)

theorem alike_bits (count : UInt8) (fault : RecordFault) :
    Alike (bits count fault) (bits count fault) :=
  Alike.here_bind fun _ _ => alike_byte.bind fun set => Alike.guard (Alike.pure set)

theorem alike_network : Alike network network := by
  refine alike_word.bind fun mask => (alike_bits 5 .networkFields).bind fun present => ?_
  refine (alike_text? .pattern _).bind fun pattern => ?_
  refine (alike_text? .raw _).bind fun domains => ?_
  refine (alike_text? .raw _).bind fun denyallow => ?_
  refine (alike_text? _ _).bind fun value => ?_
  exact (alike_text? .raw _).bind fun rawLine => Alike.pure _

theorem alike_cosmetic : Alike cosmetic cosmetic := by
  refine (alike_bits 3 .cosmeticMask).bind fun mask => ?_
  refine (alike_bits 2 .cosmeticFields).bind fun present => ?_
  refine (alike_text .selector).bind fun selector => ?_
  refine (alike_text? .raw _).bind fun hostnames => ?_
  exact (alike_text? .raw _).bind fun rawLine => Alike.pure _

/-! ## Sections -/

theorem alike_list (h : Alike first second) : Alike (list first) (list second) := by
  refine alike_count.bind fun n => (alike_repeated h n).bind fun items => ?_
  exact alike_finish.bind fun _ => Alike.pure items

theorem alike_bucketsFrom (limit : Nat) (seen : List Bucket) (n : Nat) :
    Alike (bucketsFrom limit seen n) (bucketsFrom limit seen n) := by
  induction n generalizing seen with
  | zero => exact Alike.pure []
  | succ n ih =>
    refine Alike.here_bind fun offset offset' => alike_word.bind fun token => ?_
    refine (alike_postings limit).bind fun positions => Alike.guard ?_
    exact (ih _).bind fun buckets => Alike.pure _

theorem alike_index (limit : Nat) : Alike (index limit) (index limit) := by
  refine alike_count.bind fun n => (alike_bucketsFrom limit [] n).bind fun buckets => ?_
  refine (alike_postings limit).bind fun catchAll => ?_
  exact alike_finish.bind fun _ => Alike.pure _

end Reader

namespace Snapshot

variable {s t : Snapshot} {i j : SectionInfo} {part : Section}

/-- **A section is read from its bytes**, wherever they are. -/
theorem readSection_of_bytes_eq {α : Type} {reader : Reader α} {value : α}
    (hreader : reader.Alike reader) (hi : s.info? part = some i) (hj : t.info? part = some j)
    (hbytes : j.bytes t.data = i.bytes s.data) (h : s.readSection part reader = .ok value) :
    t.readSection part reader = .ok value := by
  have hsame := hreader i.offset j.offset (i.bytes s.data)
  unfold readSection at h ⊢
  rw [hi] at h
  rw [hj]
  dsimp only at h ⊢
  rw [hbytes]
  generalize reader.run ⟨i.offset, i.bytes s.data⟩ = outcome at h hsame
  generalize reader.run ⟨j.offset, i.bytes s.data⟩ = outcome' at hsame
  cases hsame with
  | error e e' => exact nomatch h
  | ok a offset offset' rest => exact h

/-! ## Rearranged snapshots -/

theorem hasMagic_of_take_eq
    (h : moved.take Layout.magic.length = data.take Layout.magic.length)
    (hmagic : Layout.hasMagic data) : Layout.hasMagic moved := by
  rw [Layout.hasMagic, List.isPrefixOf_iff_prefix, List.prefix_iff_eq_take] at hmagic ⊢
  rw [h]
  exact hmagic

namespace IsRearranged

theorem read_header (h : IsRearranged data moved)
    (hread : Header.read data = .ok (Header.ofBytes data)) :
    Header.read moved = .ok (Header.ofBytes moved) := by
  obtain ⟨-, -, hmagic, hversion, hfingerprint, -⟩ := Header.read_eq_ok_iff.mp hread
  exact Header.read_eq_ok_iff.mpr ⟨rfl, h.room, hasMagic_of_take_eq h.magic hmagic,
    h.version.trans hversion, h.fingerprint.trans hfingerprint, h.checksum⟩

/-- Each section that is listed now was listed before. -/
theorem exists_of_mem (h : IsRearranged data moved) (hj : j ∈ listed moved) :
    ∃ i ∈ listed data, SectionInfo.IsMoved data moved i j := by
  obtain ⟨order, hperm, hmoved⟩ := h.sections
  obtain ⟨i, hi, hij⟩ := exists_of_forall₂ hmoved.flip hj
  exact ⟨i, hperm.mem_iff.mp hi, hij⟩

/-- Each section that was listed before is listed now. -/
theorem exists_moved_of_mem (h : IsRearranged data moved) (hi : i ∈ listed data) :
    ∃ j ∈ listed moved, SectionInfo.IsMoved data moved i j := by
  obtain ⟨order, hperm, hmoved⟩ := h.sections
  exact exists_of_forall₂ hmoved (hperm.mem_iff.mpr hi)

/-- No section is listed twice, where none was before. -/
theorem nodup_part (h : IsRearranged data moved)
    (hdistinct : ((listed data).map SectionInfo.part).Nodup) :
    ((listed moved).map SectionInfo.part).Nodup := by
  obtain ⟨order, hperm, hmoved⟩ := h.sections
  rw [SectionInfo.map_part_of_isMoved hmoved, (hperm.map _).nodup_iff]
  exact hdistinct

/-- **Each section reads as before.** -/
theorem readSection_eq_ok {α : Type} {reader : Reader α} {value : α}
    (h : IsRearranged data moved) (hdistinct : ((listed data).map SectionInfo.part).Nodup)
    (hreader : reader.Alike reader) {header header' : Header}
    (hread : (Snapshot.mk data header (listed data)).readSection part reader = .ok value) :
    (Snapshot.mk moved header' (listed moved)).readSection part reader = .ok value := by
  cases hinfo : (Snapshot.mk data header (listed data)).info? part with
  | none =>
    rw [readSection, hinfo] at hread
    cases hread
  | some i =>
    have hi : i ∈ listed data := List.mem_reverse.mp (List.mem_of_find?_eq_some hinfo)
    have hpart : i.part = part := by simpa using List.find?_some hinfo
    obtain ⟨j, hj, hij⟩ := h.exists_moved_of_mem hi
    have hfound := info?_of_mem (s := ⟨moved, header', listed moved⟩) (h.nodup_part hdistinct) hj
    rw [show j.part = part by rw [hij.entry, hpart]] at hfound
    exact readSection_of_bytes_eq hreader hinfo hfound hij.bytes hread

/-- **The directory is accepted as before.** -/
theorem load_eq_ok (h : IsRearranged data moved) {s : Snapshot} (hload : load data = .ok s) :
    load moved = .ok ⟨moved, Header.ofBytes moved, listed moved⟩ := by
  obtain ⟨hread, -, hchecked, rfl⟩ := load_eq_ok_iff_listed.mp hload
  refine load_eq_ok_iff_listed.mpr ⟨h.read_header hread, h.inside, fun j hj => ?_, rfl⟩
  obtain ⟨i, hi, hij⟩ := h.exists_of_mem hj
  refine ⟨hij.inside, ?_⟩
  rw [hij.bytes, ← (hchecked i hi).2, congrArg SectionInfo.checksum hij.entry]

end IsRearranged

end Snapshot

/-- **What is loaded depends on the sections alone.** Where a snapshot is accepted that lists no
section twice, so is every file that lists the same sections in another order, among entries of
unknown kinds, and with directory and sections elsewhere; and it gives the same filters and the same
indexes. -/
theorem Engine.ofSnapshot_rearranged {e : Engine} (h : Engine.ofSnapshot data = .ok e)
    (hdistinct : ((Snapshot.listed data).map SectionInfo.part).Nodup)
    (hmoved : Snapshot.IsRearranged data moved) : Engine.ofSnapshot moved = .ok e := by
  obtain ⟨s, hload, hengine⟩ := Engine.ofSnapshot_eq_ok_iff.mp h
  refine Engine.ofSnapshot_eq_ok_iff.mpr ⟨_, hmoved.load_eq_ok hload, ?_⟩
  obtain ⟨-, -, -, rfl⟩ := Snapshot.load_eq_ok_iff_listed.mp hload
  obtain ⟨hnetwork, hcosmetic, hblocks, hexceptions, hredirects, hcsp, hbyHost, hgeneric⟩ :=
    Snapshot.engine_eq_ok_iff.mp hengine
  refine Snapshot.engine_eq_ok_iff.mpr ⟨?_, ?_, ?_, ?_, ?_, ?_, ?_, ?_⟩
  · exact hmoved.readSection_eq_ok hdistinct (Reader.alike_list Reader.alike_network) hnetwork
  · exact hmoved.readSection_eq_ok hdistinct (Reader.alike_list Reader.alike_cosmetic) hcosmetic
  · exact hmoved.readSection_eq_ok hdistinct (Reader.alike_index _) hblocks
  · exact hmoved.readSection_eq_ok hdistinct (Reader.alike_index _) hexceptions
  · exact hmoved.readSection_eq_ok hdistinct (Reader.alike_index _) hredirects
  · exact hmoved.readSection_eq_ok hdistinct (Reader.alike_index _) hcsp
  · exact hmoved.readSection_eq_ok hdistinct (Reader.alike_index _) hbyHost
  · exact hmoved.readSection_eq_ok hdistinct (Reader.alike_index _) hgeneric

/-- The directory in reverse, behind a gap and an entry of an unknown kind that tells of a place
beyond the file. -/
theorem Engine.ofSnapshot_rearranged_reversed :
    let e := Engine.build [fullFilter] [unhideFilter]
    let sections := SectionData.ofEngine e
    let entries := (Snapshot.placed sections).reverse.map fun p => p.2.entry (p.1.offset + 224)
    let moved :=
      Snapshot.relisted (List.replicate 8 0) (List.replicate 24 0xff :: entries) e.snapshot
    Engine.ofSnapshot e.snapshot = .ok e
      ∧ ((Snapshot.listed e.snapshot).map SectionInfo.part).Nodup
      ∧ Snapshot.IsRearranged e.snapshot moved
      ∧ Engine.ofSnapshot moved = .ok e := by
  intro e sections entries moved
  have hread : Engine.ofSnapshot e.snapshot = .ok e :=
    ofSnapshot_snapshot (isSound_build [fullFilter] isKnown_of_mem_unhideFilter)
      length_snapshot_fullFilter
  have hdistinct : ((Snapshot.listed e.snapshot).map SectionInfo.part).Nodup := by
    rw [Engine.snapshot, Snapshot.listed_assemble length_snapshot_fullFilter,
      SectionData.map_part_infos]
    exact nodup_part_ofEngine e
  have hmoved : Snapshot.IsRearranged e.snapshot moved :=
    Snapshot.isRearranged_assemble (Snapshot.placed sections).reverse_perm
      rfl (by decide) _ (by rw [List.length_reverse]; rfl)
      (Nat.lt_of_le_of_lt (Nat.add_le_add_right length_snapshot_fullFilter_le 224) (by decide))
  exact ⟨hread, hdistinct, hmoved, ofSnapshot_rearranged hread hdistinct hmoved⟩

end Blocklist
