import Mathlib.Tactic.Ring
import Blocklist.Proofs.Snapshot.Assemble
import Blocklist.Proofs.Snapshot.Indexed
/-!
# Snapshots — no access beyond bounds

Whatever bytes are loaded, no access faults and every error is found where it
belongs (`reading_stays_within`). Each reader is followed by the one that
reads by index (`IndexedReader.Follows`): from any place of a section both
come to the same place of it with the same value, or to the same error, which
is found in the section.
-/

namespace Blocklist

/-! ## Where errors are -/

namespace SnapshotError

/-- Where in the file an error was found; none for those that are not of one place. -/
def offset? : SnapshotError → Option Nat
  | truncated offset | invalidRecord offset _ | codebook offset _ => some offset
  | _ => none

/-- Whether an error was found between two places of the file, or at one of them. -/
def IsWithin (e : SnapshotError) (start stop : Nat) : Prop :=
  ∃ offset, e.offset? = some offset ∧ start ≤ offset ∧ offset ≤ stop

end SnapshotError

/-! ## Readers that agree -/

namespace IndexedReader

variable {α β : Type} {bytes : List UInt8} {base : Nat} {indexed : IndexedReader α}
variable {read : Reader α} {e : SnapshotError}

/-- Outcomes that agree: both readers have failed, with the same error, which was found in the
section; or both give the same value and are at the same place of the section. -/
inductive Agrees {α : Type} (bytes : List UInt8) (base : Nat) :
    Except SnapshotError (α × Window) → Except SnapshotError (α × Cursor) → Prop where
  | error {e : SnapshotError} (h : e.IsWithin base (base + bytes.length)) :
      Agrees bytes base (.error e) (.error e)
  | ok (a : α) {position : Nat} (h : position ≤ bytes.length) :
      Agrees bytes base (.ok (a, ⟨bytes, base, position⟩))
        (.ok (a, ⟨base + position, bytes.drop position⟩))

/-- Wherever it begins in a section, one reader does not fault and agrees with the other. -/
def Follows (bytes : List UInt8) (base : Nat) (indexed : IndexedReader α) (read : Reader α) :
    Prop :=
  ∀ position ≤ bytes.length, ∃ outcome, (indexed.run ⟨bytes, base, position⟩).run = .ok outcome
    ∧ Agrees bytes base outcome (read.run ⟨base + position, bytes.drop position⟩)

/-! ## Rules -/

theorem Follows.pure (a : α) : Follows bytes base (Pure.pure a) (Pure.pure a) :=
  fun _ hposition => ⟨_, rfl, .ok a hposition⟩

theorem Follows.throw (h : e.IsWithin base (base + bytes.length)) :
    Follows bytes base (MonadExcept.throw e : IndexedReader α) (MonadExcept.throw e) :=
  fun _ _ => ⟨_, rfl, .error h⟩

/-- Nothing follows an error. -/
theorem Follows.throw_bind {failed : β → IndexedReader α} {failed' : β → Reader α}
    (h : e.IsWithin base (base + bytes.length)) :
    Follows bytes base (MonadExcept.throw e >>= failed) (MonadExcept.throw e >>= failed') :=
  fun _ _ => ⟨_, rfl, .error h⟩

theorem Follows.bind {nextIndexed : α → IndexedReader β} {next : α → Reader β}
    (h : Follows bytes base indexed read)
    (hnext : ∀ a, Follows bytes base (nextIndexed a) (next a)) :
    Follows bytes base (indexed >>= nextIndexed) (read >>= next) := by
  intro position hposition
  obtain ⟨outcome, hrun, hagrees⟩ := h position hposition
  rw [StateT.run_bind, StateT.run_bind, ExceptT.run_bind, hrun]
  generalize read.run ⟨base + position, bytes.drop position⟩ = result at hagrees
  cases hagrees with
  | error he => exact ⟨_, rfl, .error he⟩
  | ok a hreached => exact hnext a _ hreached

/-- What follows may rely on the place that is asked for. -/
theorem Follows.here_bind {nextIndexed : Nat → IndexedReader β} {next : Nat → Reader β}
    (hnext : ∀ offset, base ≤ offset → offset ≤ base + bytes.length →
      Follows bytes base (nextIndexed offset) (next offset)) :
    Follows bytes base (here >>= nextIndexed) (Reader.here >>= next) :=
  fun position hposition =>
    hnext (base + position) (by omega) (by omega) position hposition

theorem Follows.ite {c : Prop} [Decidable c] {first second : IndexedReader α}
    {first' second' : Reader α} (hfirst : c → Follows bytes base first first')
    (hsecond : ¬ c → Follows bytes base second second') :
    Follows bytes base (if c then first else second) (if c then first' else second') := by
  split
  · next h => exact hfirst h
  · next h => exact hsecond h

/-- A check that refuses what is wrong at a place of the section. -/
theorem Follows.guard {c : Prop} [Decidable c] {failed : PUnit → IndexedReader α}
    {failed' : PUnit → Reader α} (he : e.IsWithin base (base + bytes.length))
    (h : Follows bytes base indexed read) :
    Follows bytes base (if c then MonadExcept.throw e >>= failed else indexed)
      (if c then MonadExcept.throw e >>= failed' else read) :=
  Follows.ite (fun _ => Follows.throw_bind he) fun _ => h

theorem Follows.map (h : Follows bytes base indexed read) (f : α → β) :
    Follows bytes base (f <$> indexed) (f <$> read) := by
  rw [map_eq_pure_bind, map_eq_pure_bind]
  exact h.bind fun a => Follows.pure (f a)

/-! ## Bytes -/

theorem follows_remaining : Follows bytes base remaining Reader.remaining := by
  intro position hposition
  refine ⟨.ok (bytes.length - position, ⟨bytes, base, position⟩), ?_, ?_⟩
  · rw [remaining, StateT.run_bind, StateT.run_get, pure_bind]
    dsimp only
    rw [Access.sub_of_le hposition]
    rfl
  · rw [← List.length_drop]
    exact .ok _ hposition

/-- As many bytes as are asked for are handed on. -/
theorem Follows.bytes_bind {n : Nat} {nextIndexed : List UInt8 → IndexedReader β}
    {next : List UInt8 → Reader β}
    (hnext : ∀ part, part.length = n → Follows bytes base (nextIndexed part) (next part)) :
    Follows bytes base (IndexedReader.bytes n >>= nextIndexed) (Reader.bytes n >>= next) := by
  intro position hposition
  rw [IndexedReader.bytes, Reader.bytes, StateT.run_bind, StateT.run_bind, StateT.run_bind,
    StateT.run_bind, StateT.run_get, StateT.run_get, pure_bind, pure_bind]
  dsimp only
  by_cases hroom : bytes.length < position + n
  · rw [if_pos hroom, if_pos (by rw [List.length_drop]; omega)]
    exact ⟨_, rfl, .error ⟨_, rfl, by omega, by omega⟩⟩
  · have hpart : ((bytes.drop position).take n).length = n := by
      rw [List.length_take, List.length_drop]
      omega
    have h := hnext _ hpart (position + n) (by omega)
    rw [← Nat.add_assoc, ← List.drop_drop] at h
    rw [if_neg hroom, if_neg (by rw [List.length_drop]; omega),
      Access.slice_of_le (by omega) (by omega), Nat.add_sub_cancel_left]
    exact h

theorem reader_byte_eq : Reader.byte = do return (← Reader.bytes 1).headD 0 := by
  funext c
  rcases c with ⟨offset, _ | ⟨b, rest⟩⟩ <;> rfl

theorem follows_byte : Follows bytes base byte Reader.byte := by
  rw [reader_byte_eq]
  refine Follows.bytes_bind fun part hpart => ?_
  obtain ⟨b, rfl⟩ := List.length_eq_one_iff.mp hpart
  exact Follows.pure b

theorem follows_word : Follows bytes base word Reader.word := by
  refine Follows.bytes_bind fun part hpart => ?_
  rw [Access.wordAt_of_le (by omega)]
  exact Follows.pure _

theorem follows_finish : Follows bytes base finish Reader.finish := by
  intro position hposition
  rw [finish, Reader.finish, StateT.run_bind, StateT.run_bind, StateT.run_get, StateT.run_get,
    pure_bind, pure_bind]
  dsimp only
  by_cases hmore : position < bytes.length
  · rw [if_pos hmore, if_pos (by simpa using hmore)]
    exact ⟨_, rfl, .error ⟨_, rfl, by omega, by omega⟩⟩
  · rw [if_neg hmore, if_neg (by simpa using hmore)]
    exact ⟨_, rfl, .ok _ hposition⟩

/-! ## Numbers -/

/-- Seven bits more. -/
theorem add_shift (sum low n shift : Nat) :
    sum + low <<< shift + n <<< (shift + 7) = sum + (low + 128 * n) <<< shift := by
  simp only [Nat.shiftLeft_eq, Nat.pow_add]
  ring

/-- **A number takes five bytes at most**: from the bit 28 on, no byte says that another follows. -/
theorem follows_varintLoop {start : Nat} (hstart : base ≤ start ∧ start ≤ base + bytes.length)
    {more : Nat} (hmore : more ≤ 4) (sum : Nat) :
    Follows bytes base (varintLoop start (more + 1) (28 - 7 * more) sum)
      ((fun n => sum + n <<< (28 - 7 * more)) <$> Reader.varintFrom start more) := by
  have he : ∀ fault,
      (SnapshotError.invalidRecord start fault).IsWithin base (base + bytes.length) :=
    fun fault => ⟨start, rfl, hstart⟩
  -- on the bytes that may follow, as the shift goes up to the bit 28
  induction more generalizing sum with
  | zero =>
    rw [varintLoop, Reader.varintFrom, map_bind]
    refine follows_byte.bind fun b => ?_
    by_cases hlast : 15 < b
    · rw [if_pos (by simp [hlast]), if_pos hlast]
      exact fun _ _ => ⟨_, rfl, .error (he _)⟩
    · -- a byte of four bits says that none follows, so the allowance is not gone into
      have hsmall : b.toNat ≤ 15 := UInt8.le_iff_toNat_le.mp (UInt8.not_lt.mp hlast)
      have hends : b < 128 := UInt8.lt_iff_toNat_lt.mpr (Nat.lt_of_le_of_lt hsmall (by decide))
      rw [if_neg (by simp [hlast]), if_neg hlast, if_pos hends, Nat.mod_eq_of_lt (by omega),
        map_pure]
      exact Follows.pure _
  | succ more ih =>
    have hshift : 28 - 7 * (more + 1) + 7 = 28 - 7 * more := by omega
    rw [varintLoop, Reader.varintFrom, map_bind]
    refine follows_byte.bind fun b => ?_
    rw [if_neg (by simp; omega)]
    by_cases hends : b < 128
    · have hsmall : b.toNat < 128 := UInt8.lt_iff_toNat_lt.mp hends
      rw [if_pos hends, if_pos hends, map_pure, Nat.mod_eq_of_lt hsmall]
      exact Follows.pure _
    · have h := ih (by omega) (sum + (b.toNat % 128) <<< (28 - 7 * (more + 1)))
      rw [if_neg hends, if_neg hends, map_bind]
      simp only [← hshift, add_shift, map_eq_pure_bind, pure_bind] at h ⊢
      exact h

theorem follows_varint : Follows bytes base varint Reader.varint := by
  refine Follows.here_bind fun start hle hstop => ?_
  have h := follows_varintLoop ⟨hle, hstop⟩ (Nat.le_refl 4) 0
  simpa using h

/-! ## Positions -/

theorem follows_positionsFrom (limit : Nat) (previous : Option Nat) (n : Nat) :
    Follows bytes base (positionsFrom limit previous n)
      (Reader.positionsFrom limit previous n) := by
  induction n generalizing previous with
  | zero => exact Follows.pure []
  | succ n ih =>
    unfold positionsFrom Reader.positionsFrom
    refine Follows.here_bind fun offset hle hstop => follows_varint.bind fun step => ?_
    have he : ∀ fault,
        (SnapshotError.invalidRecord offset fault).IsWithin base (base + bytes.length) :=
      fun fault => ⟨offset, rfl, hle, hstop⟩
    refine Follows.guard (he _) (Follows.guard (he _) (Follows.guard (he _) ?_))
    exact (ih _).bind fun positions => Follows.pure _

theorem follows_postings (limit : Nat) :
    Follows bytes base (postings limit) (Reader.postings limit) := by
  refine follows_varint.bind fun count => follows_remaining.bind fun left => ?_
  refine Follows.ite (fun _ => ?_) fun _ => follows_positionsFrom limit none count
  refine Follows.here_bind fun offset hle hstop => ?_
  exact Follows.throw_bind ⟨offset, rfl, hle, hstop⟩

theorem follows_count : Follows bytes base count Reader.count := by
  refine Follows.here_bind fun offset hle hstop => follows_varint.bind fun count => ?_
  exact follows_remaining.bind fun left =>
    Follows.guard ⟨offset, rfl, hle, hstop⟩ (Follows.pure count)

/-! ## Records -/

theorem follows_text (book : Codebook) : Follows bytes base (text book) (Reader.text book) := by
  refine follows_varint.bind fun length => Follows.here_bind fun offset hle hstop => ?_
  refine Follows.bytes_bind fun codes _ => ?_
  rw [Guarded.decode_eq]
  cases book.decode codes with
  | ok s => exact Follows.pure s
  | error reason => exact Follows.throw ⟨offset, rfl, hle, hstop⟩

theorem follows_text? (book : Codebook) (present : Bool) :
    Follows bytes base (text? book present) (Reader.text? book present) :=
  Follows.ite (fun _ => (follows_text book).map some) fun _ => Follows.pure none

theorem follows_bits (count : UInt8) (fault : RecordFault) :
    Follows bytes base (bits count fault) (Reader.bits count fault) := by
  refine Follows.here_bind fun offset hle hstop => follows_byte.bind fun set => ?_
  exact Follows.guard ⟨offset, rfl, hle, hstop⟩ (Follows.pure set)

theorem follows_network : Follows bytes base network Reader.network := by
  refine follows_word.bind fun mask => (follows_bits 5 .networkFields).bind fun present => ?_
  refine (follows_text? .pattern _).bind fun pattern => ?_
  refine (follows_text? .raw _).bind fun domains => ?_
  refine (follows_text? .raw _).bind fun denyallow => ?_
  refine (follows_text? _ _).bind fun value => ?_
  exact (follows_text? .raw _).bind fun rawLine => Follows.pure _

theorem follows_cosmetic : Follows bytes base cosmetic Reader.cosmetic := by
  refine (follows_bits 3 .cosmeticMask).bind fun mask => ?_
  refine (follows_bits 2 .cosmeticFields).bind fun present => ?_
  refine (follows_text .selector).bind fun selector => ?_
  refine (follows_text? .raw _).bind fun hostnames => ?_
  exact (follows_text? .raw _).bind fun rawLine => Follows.pure _

theorem follows_repeated (h : Follows bytes base indexed read) (n : Nat) :
    Follows bytes base (repeated indexed n) (Reader.repeated read n) := by
  induction n with
  | zero => exact Follows.pure []
  | succ n ih => exact h.bind fun first => ih.bind fun others => Follows.pure _

/-! ## Sections -/

theorem follows_list (h : Follows bytes base indexed read) :
    Follows bytes base (list indexed) (Reader.list read) := by
  refine follows_count.bind fun n => (follows_repeated h n).bind fun items => ?_
  exact follows_finish.bind fun _ => Follows.pure items

theorem follows_bucketsFrom (limit : Nat) (seen : List Bucket) (n : Nat) :
    Follows bytes base (bucketsFrom limit seen n) (Reader.bucketsFrom limit seen n) := by
  induction n generalizing seen with
  | zero => exact Follows.pure []
  | succ n ih =>
    refine Follows.here_bind fun offset hle hstop => follows_word.bind fun token => ?_
    refine (follows_postings limit).bind fun positions => ?_
    refine Follows.guard ⟨offset, rfl, hle, hstop⟩ ?_
    exact (ih _).bind fun buckets => Follows.pure _

theorem follows_index (limit : Nat) : Follows bytes base (index limit) (Reader.index limit) := by
  refine follows_count.bind fun n => (follows_bucketsFrom limit [] n).bind fun buckets => ?_
  refine (follows_postings limit).bind fun catchAll => ?_
  exact follows_finish.bind fun _ => Follows.pure _

end IndexedReader

/-! ## Files -/

namespace Indexed

open Guarded

variable {data : List UInt8}

theorem checksum_eq (h : Layout.headerLength ≤ data.length) :
    checksum data = .ok (Layout.checksum data) := by
  simp only [Layout.headerLength] at h
  rw [checksum, Access.slice_of_le (Nat.zero_le _) (by simp only [Layout.checksumOffset]; omega),
    Access.slice_of_le (by simp only [Layout.checksumOffset]; omega) (Nat.le_refl _),
    Nat.sub_zero, List.drop_zero, ← List.length_drop, List.take_length]
  rfl

theorem hasMagic_eq (data : List UInt8) :
    Layout.hasMagic data = (data.take Layout.magic.length == Layout.magic) := by
  rw [Bool.eq_iff_iff, Layout.hasMagic, List.isPrefixOf_iff_prefix, List.prefix_iff_eq_take,
    beq_iff_eq, eq_comm]

/-- **A header is read within its length.** -/
theorem header_eq (data : List UInt8) : header data = ofExcept (Header.read data) := by
  refine guard_eq_ofExcept fun hlong => ?_
  have hlength : Layout.headerLength ≤ data.length := Nat.not_lt.mp hlong
  have hword : ∀ place, place + 4 ≤ Layout.headerLength →
      Access.wordAt place data = .ok (LittleEndian.wordAt place data) :=
    fun place hplace => Access.wordAt_of_le (Nat.le_trans hplace hlength)
  have hhalf : ∀ place, place + 2 ≤ Layout.headerLength →
      Access.halfAt place data = .ok (LittleEndian.halfAt place data) :=
    fun place hplace => Access.halfAt_of_le (Nat.le_trans hplace hlength)
  rw [Access.slice_of_le (Nat.zero_le _) (Nat.le_trans (by decide) hlength), liftM_ok_bind,
    hasMagic_eq]
  refine guard_eq_ofExcept fun _ => ?_
  rw [hhalf 4 (by decide), liftM_ok_bind]
  refine guard_eq_ofExcept fun _ => ?_
  rw [hword 24 (by decide), liftM_ok_bind]
  refine guard_eq_ofExcept fun _ => ?_
  rw [hhalf 6 (by decide), liftM_ok_bind, hword _ (by decide), liftM_ok_bind, checksum_eq hlength,
    hword 12 (by decide), hword 16 (by decide)]
  by_cases hflags : LittleEndian.halfAt 6 data &&& Layout.hasChecksum != 0
  · rw [if_pos hflags, if_pos (by exact hflags), liftM_ok_bind]
    exact guard_eq_ofExcept fun _ => rfl
  · rw [if_neg hflags, if_neg (by exact hflags)]
    rfl

/-- **An entry of the directory is read within its length**, and its section within the file. -/
theorem entry_eq {place : Nat} (h : place + Layout.entryLength ≤ data.length) :
    entry data place = ofExcept (SectionInfo.read data place) := by
  have hword : ∀ k, k + 4 ≤ Layout.entryLength →
      Access.wordAt (place + k) data = .ok (LittleEndian.wordAt (place + k) data) :=
    fun k hk => Access.wordAt_of_le (by omega)
  have hhalf : ∀ k, k + 2 ≤ Layout.entryLength →
      Access.halfAt (place + k) data = .ok (LittleEndian.halfAt (place + k) data) :=
    fun k hk => Access.halfAt_of_le (by omega)
  rw [entry, show Access.halfAt place data = _ from hhalf 0 (by decide), liftM_ok_bind,
    hhalf 2 (by decide), hword 4 (by decide), hword 8 (by decide), hword 12 (by decide),
    hword 16 (by decide), SectionInfo.read, SectionInfo.ofBytes?]
  cases Section.ofCode? (LittleEndian.halfAt place data) with
  | none => rfl
  | some part =>
    refine guard_eq_ofExcept fun hroom => ?_
    rw [Access.slice_of_le (Nat.le_add_right ..) (Nat.not_lt.mp hroom), liftM_ok_bind,
      Nat.add_sub_cancel_left]
    exact guard_eq_ofExcept fun _ => rfl

/-- **Header and directory are read within the file.** -/
theorem load_eq (data : List UInt8) : load data = ofExcept (Snapshot.load data) := by
  rw [load, header_eq, Snapshot.load, ofExcept_bind]
  refine congrArg (_ >>= ·) (funext fun h => guard_eq_ofExcept fun hroom => ?_)
  have hentries : ∀ place ∈ Snapshot.places h,
      entry data place = ofExcept (SectionInfo.read data place) := by
    intro place hplace
    obtain ⟨n, hn, rfl⟩ := List.mem_map.mp hplace
    have hinside : (n + 1) * Layout.entryLength ≤ h.sections * Layout.entryLength :=
      Nat.mul_le_mul_right _ (List.mem_range.mp hn)
    rw [Nat.succ_mul] at hinside
    exact entry_eq (by omega)
  show (Snapshot.places h).mapM (entry data) >>= _ = _
  rw [mapM_eq_ofExcept hentries, ofExcept_bind]
  rfl

end Indexed

/-! ## Sections of a file -/

namespace Snapshot

variable {α : Type} {data : List UInt8} {s : Snapshot} {part : Section}

/-- Whether an error says that a section is not there, as it is not, or was found in the section,
its end included. -/
def Locates (s : Snapshot) (part : Section) (e : SnapshotError) : Prop :=
  (s.info? part = none ∧ e = .missingSection part)
    ∨ ∃ info, s.info? part = some info ∧ e.IsWithin info.offset (info.offset + info.length)

/-- A section is read without a fault, to the same outcome, and what is wrong with it is found in
it. -/
structure ReadsWithin (s : Snapshot) (part : Section) (indexed : Guarded SnapshotError α)
    (read : Except SnapshotError α) : Prop where
  /-- Nothing faults. -/
  run : indexed.run = .ok read
  /-- Errors are found in the section. -/
  located : ∀ e, read = .error e → s.Locates part e

/-- Every section that a snapshot names lies in the file. -/
theorem le_length_of_info? (h : load data = .ok s) {info : SectionInfo}
    (hinfo : s.info? part = some info) : info.offset + info.length ≤ s.data.length := by
  obtain ⟨header, entries, -, -, hentries, rfl⟩ := load_eq_ok_iff.mp h
  obtain ⟨-, hchecked⟩ := SectionInfo.mapM_read_eq_ok_iff.mp hentries
  have hmem := List.mem_reverse.mp (List.mem_of_find?_eq_some hinfo)
  obtain ⟨entry, hentry, rfl⟩ := List.mem_filterMap.mp hmem
  exact (hchecked info hentry).1

/-- **A section is read within it.** -/
theorem readsWithin_readSection {indexed : IndexedReader α} {read : Reader α}
    (h : load data = .ok s)
    (hfollows : ∀ bytes base, IndexedReader.Follows bytes base indexed read) (part : Section) :
    s.ReadsWithin part (Indexed.readSection s part indexed) (s.readSection part read) := by
  rw [Indexed.readSection, Snapshot.readSection]
  cases hinfo : s.info? part with
  | none =>
    refine ⟨rfl, fun e he => .inl ⟨hinfo, ?_⟩⟩
    exact (Except.error.inj he).symm
  | some info =>
    have hroom := le_length_of_info? h hinfo
    have hlength : (info.bytes s.data).length = info.length := by
      rw [SectionInfo.bytes, List.length_take, List.length_drop]
      omega
    obtain ⟨outcome, hrun, hagrees⟩ :=
      hfollows (info.bytes s.data) info.offset 0 (Nat.zero_le _)
    rw [Nat.add_zero, List.drop_zero] at hagrees
    dsimp only
    rw [Access.slice_of_le (Nat.le_add_right ..) hroom, Guarded.liftM_ok_bind,
      Nat.add_sub_cancel_left]
    change (indexed.run ⟨(s.data.drop info.offset).take info.length, info.offset, 0⟩).run = _
      at hrun
    generalize read.run ⟨info.offset, info.bytes s.data⟩ = result at hagrees ⊢
    cases hagrees with
    | error he =>
      refine ⟨by rw [ExceptT.run_bind, hrun]; rfl, fun e' he' => ?_⟩
      obtain rfl := Except.error.inj he'
      exact .inr ⟨info, hinfo, hlength ▸ he⟩
    | ok a hreached =>
      refine ⟨by rw [ExceptT.run_bind, hrun]; rfl, fun e' he' => ?_⟩
      cases he'

theorem readsWithin_network (h : load data = .ok s) :
    s.ReadsWithin .networkFilters (Indexed.network s) s.network :=
  readsWithin_readSection h
    (fun _ _ => IndexedReader.follows_list IndexedReader.follows_network) _

theorem readsWithin_cosmetic (h : load data = .ok s) :
    s.ReadsWithin .cosmeticFilters (Indexed.cosmetic s) s.cosmetic :=
  readsWithin_readSection h
    (fun _ _ => IndexedReader.follows_list IndexedReader.follows_cosmetic) _

theorem readsWithin_index (h : load data = .ok s) (part : Section) (limit : Nat) :
    s.ReadsWithin part (Indexed.index s part limit) (s.index part limit) :=
  readsWithin_readSection h (fun _ _ => IndexedReader.follows_index limit) part

/-- All sections are read without a fault, and what is wrong is found in one of them. -/
theorem engine_within (h : load data = .ok s) :
    Indexed.engine s = Guarded.ofExcept s.engine
      ∧ ∀ e, s.engine = .error e → ∃ part, s.Locates part e := by
  have hnetwork : Indexed.network s = Guarded.ofExcept s.network := (readsWithin_network h).run
  have hcosmetic : Indexed.cosmetic s = Guarded.ofExcept s.cosmetic := (readsWithin_cosmetic h).run
  have hindex : ∀ part limit, Indexed.index s part limit = Guarded.ofExcept (s.index part limit) :=
    fun part limit => (readsWithin_index h part limit).run
  constructor
  · simp only [Indexed.engine, hnetwork, hcosmetic, hindex, engine, Guarded.ofExcept_bind]
    rfl
  · intro e he
    simp only [engine, bind_eq_error_iff] at he
    rcases he with he | ⟨network, -, he | ⟨cosmetic, -, he | ⟨_, -, he | ⟨_, -, he | ⟨_, -, he |
      ⟨_, -, he | ⟨_, -, he | ⟨_, -, he⟩⟩⟩⟩⟩⟩⟩⟩
    · exact ⟨_, (readsWithin_network h).located e he⟩
    · exact ⟨_, (readsWithin_cosmetic h).located e he⟩
    all_goals first
      | exact ⟨_, (readsWithin_index h _ _).located e he⟩
      | cases he

/-- **Whatever the bytes, loading stays within them.** No access is beyond bounds: no byte is read
and no slice is taken that is not there, nothing is subtracted from less, and no number takes a
sixth byte; so there is always a snapshot and an engine, or an error. Every section lies in the
file, and what is wrong with one is found in it, its end included. -/
theorem reading_stays_within (data : List UInt8) :
    (Indexed.load data).run = .ok (load data) ∧
    (Indexed.ofSnapshot data).run = .ok (Engine.ofSnapshot data) ∧
    ∀ s, load data = .ok s →
      (∀ part info, s.info? part = some info → info.offset + info.length ≤ data.length) ∧
      s.ReadsWithin .networkFilters (Indexed.network s) s.network ∧
      s.ReadsWithin .cosmeticFilters (Indexed.cosmetic s) s.cosmetic ∧
      (∀ part limit, s.ReadsWithin part (Indexed.index s part limit) (s.index part limit)) ∧
      ∀ e, s.engine = .error e → ∃ part, s.Locates part e := by
  refine ⟨Indexed.load_eq data, ?_, fun s h => ⟨fun part info hinfo => ?_, readsWithin_network h,
    readsWithin_cosmetic h, readsWithin_index h, (engine_within h).2⟩⟩
  · show Indexed.ofSnapshot data = Guarded.ofExcept (Engine.ofSnapshot data)
    rw [Indexed.ofSnapshot, Indexed.load_eq, Engine.ofSnapshot]
    cases h : load data with
    | error e => rfl
    | ok s => exact (engine_within h).1
  · obtain ⟨_, _, -, -, -, rfl⟩ := load_eq_ok_iff.mp h
    exact le_length_of_info? h hinfo

/-- A section whose first number has too many bits in its fifth byte. -/
def overlong : List SectionData := [⟨.networkFilters, 1, [0xff, 0xff, 0xff, 0xff, 0x10]⟩]

theorem length_assemble_overlong : (assemble overlong).length < 2 ^ 32 := by
  decide +kernel

theorem network_loaded_overlong :
    (loaded overlong).network = .error (.invalidRecord 88 .varintOverflow) := by
  decide +kernel

theorem reading_stays_within_overlong :
    load (assemble overlong) = .ok (loaded overlong)
      ∧ (Indexed.network (loaded overlong)).run = .ok (.error (.invalidRecord 88 .varintOverflow))
      ∧ (loaded overlong).Locates .networkFilters (.invalidRecord 88 .varintOverflow) := by
  have hload := load_assemble length_assemble_overlong
  obtain ⟨-, -, hread⟩ := reading_stays_within (assemble overlong)
  obtain ⟨-, hnetwork, -⟩ := hread _ hload
  refine ⟨hload, ?_, hnetwork.located _ network_loaded_overlong⟩
  rw [hnetwork.run, network_loaded_overlong]

end Snapshot

end Blocklist
