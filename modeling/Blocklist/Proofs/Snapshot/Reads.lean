import Mathlib.Algebra.GroupWithZero.Nat
import Blocklist.Proofs.Index.Lookup
import Blocklist.Snapshot.Varint
/-!
# Snapshots — what a reader takes

A reader that takes exactly some bytes, whatever follows them, gives a value
and leaves the rest (`Reader.Reads`). Such readings are put one after the
other; numbers of varying length and rows of positions are read as they were
written (`reads_varint`, `reads_postings`).
-/

namespace Blocklist

namespace Reader

variable {α β : Type} {read : Reader α} {next : α → Reader β}
variable {bytes more : List UInt8} {value : α} {result : β}

/-- A reader takes these bytes off what is left, wherever they are, and gives this value. -/
def Reads (read : Reader α) (bytes : List UInt8) (value : α) : Prop :=
  ∀ offset rest,
    read.run ⟨offset, bytes ++ rest⟩ = .ok (value, ⟨offset + bytes.length, rest⟩)

/-! ## One after the other -/

theorem Reads.pure (value : α) : Reads (Pure.pure value) [] value := fun _ _ => rfl

theorem Reads.bind (hread : Reads read bytes value) (hnext : Reads (next value) more result) :
    Reads (read >>= next) (bytes ++ more) result := by
  intro offset rest
  rw [StateT.run_bind, List.append_assoc, hread]
  rw [List.length_append, ← Nat.add_assoc]
  exact hnext (offset + bytes.length) rest

theorem Reads.map (hread : Reads read bytes value) (f : α → β) :
    Reads (f <$> read) bytes (f value) := by
  intro offset rest
  rw [StateT.run_map, hread]
  rfl

/-- What takes no bytes may follow. -/
theorem Reads.bind_nil (hread : Reads read bytes value) (hnext : Reads (next value) [] result) :
    Reads (read >>= next) bytes result := by
  have h := hread.bind hnext
  rwa [List.append_nil] at h

theorem Reads.bind_pure (hread : Reads read bytes value) (f : α → β) :
    Reads (read >>= fun a => Pure.pure (f a)) bytes (f value) :=
  hread.bind_nil (Reads.pure (f value))

theorem Reads.here_bind {next : Nat → Reader β}
    (h : ∀ offset, Reads (next offset) bytes result) : Reads (here >>= next) bytes result :=
  fun offset rest => h offset offset rest

theorem Reads.remaining_bind {next : Nat → Reader β}
    (h : ∀ left, bytes.length ≤ left → Reads (next left) bytes result) :
    Reads (remaining >>= next) bytes result := by
  intro offset rest
  exact h (bytes ++ rest).length (by rw [List.length_append]; omega) offset rest

/-! ## Bytes and words -/

theorem reads_byte (b : UInt8) : Reads byte [b] b := fun _ _ => rfl

theorem Reads.byte_bind {next : UInt8 → Reader β} {b : UInt8} (h : Reads (next b) more result) :
    Reads (byte >>= next) (b :: more) result :=
  (reads_byte b).bind h

theorem reads_bytes (bytes : List UInt8) : Reads (Reader.bytes bytes.length) bytes bytes := by
  intro offset rest
  have hleft : ¬ (bytes ++ rest).length < bytes.length := by
    rw [List.length_append]
    omega
  simp only [Reader.bytes, StateT.run_bind, StateT.run_get, pure_bind]
  rw [if_neg hleft, List.drop_left, List.take_left]
  rfl

theorem reads_word (n : UInt32) : Reads word (LittleEndian.ofWord n) n := by
  have h := (reads_bytes (LittleEndian.ofWord n)).map (LittleEndian.wordAt 0)
  have hvalue : LittleEndian.wordAt 0 (LittleEndian.ofWord n) = n := by
    rw [← List.append_nil (LittleEndian.ofWord n)]
    exact LittleEndian.wordAt_ofWord n []
  rw [hvalue] at h
  exact h

/-! ## Numbers of varying length -/

/-- Bytes that are a number: the low seven bits of each, lowest group first, where every byte but
the last has its high bit set. -/
inductive IsVarint : List UInt8 → Nat → Prop where
  | last {b : UInt8} (h : b < 128) : IsVarint [b] b.toNat
  | more {b : UInt8} {bytes : List UInt8} {n : Nat} (h : 128 ≤ b) (hrest : IsVarint bytes n) :
      IsVarint (b :: bytes) (b.toNat % 128 + 128 * n)

theorem IsVarint.ne_nil {bytes : List UInt8} {n : Nat} (h : IsVarint bytes n) : bytes ≠ [] := by
  cases h <;> exact List.cons_ne_nil _ _

theorem varint_of_lt {n : Nat} (h : n < 128) : Blocklist.varint n = [n.toUInt8] := by
  rw [Blocklist.varint, if_pos h]

theorem varint_of_le {n : Nat} (h : 128 ≤ n) :
    Blocklist.varint n = (n % 128 + 128).toUInt8 :: Blocklist.varint (n / 128) := by
  rw [Blocklist.varint, if_neg (Nat.not_lt.mpr h)]

theorem length_varint_pos (n : Nat) : 0 < (Blocklist.varint n).length := by
  rw [Blocklist.varint]
  split <;> simp

/-- Each byte but one holds seven bits of a number. -/
theorem length_varint_le {left n : Nat} (h : n < 16 * 128 ^ left) :
    (Blocklist.varint n).length ≤ left + 1 := by
  induction left generalizing n with
  | zero =>
    rw [varint_of_lt (by omega)]
    exact Nat.le_refl 1
  | succ left ih =>
    by_cases hn : n < 128
    · rw [varint_of_lt hn]
      exact Nat.succ_le_succ (Nat.zero_le _)
    · rw [Nat.pow_succ] at h
      rw [varint_of_le (by omega), List.length_cons]
      exact Nat.succ_le_succ (ih (by omega))

/-- What is written for a number is the number. -/
theorem isVarint_varint (n : Nat) : IsVarint (Blocklist.varint n) n := by
  induction n using Nat.strongRecOn with
  | ind n ih =>
    by_cases hn : n < 128
    · have hbyte : n.toUInt8.toNat = n :=
        UInt8.toNat_ofNat_of_lt' (show n < 256 by omega)
      have hlast : n.toUInt8 < 128 := by
        rw [UInt8.lt_iff_toNat_lt, hbyte]
        exact hn
      have h := IsVarint.last hlast
      rwa [hbyte, ← varint_of_lt hn] at h
    · have hbyte : (n % 128 + 128).toUInt8.toNat = n % 128 + 128 :=
        UInt8.toNat_ofNat_of_lt' (show n % 128 + 128 < 256 by omega)
      have hmore : 128 ≤ (n % 128 + 128).toUInt8 := by
        rw [UInt8.le_iff_toNat_le, hbyte]
        exact Nat.le_add_left ..
      have hvalue : (n % 128 + 128) % 128 + 128 * (n / 128) = n := by omega
      have h := IsVarint.more hmore (ih (n / 128) (by omega))
      rwa [hbyte, hvalue, ← varint_of_le (by omega)] at h

/-- A number that is small enough for some bytes more, and takes no more of them, is read. -/
theorem IsVarint.reads {bytes : List UInt8} {n left : Nat} (h : IsVarint bytes n) (start : Nat)
    (hlength : bytes.length ≤ left + 1) (hn : n < 16 * 128 ^ left) :
    Reads (varintFrom start left) bytes n := by
  -- each byte leaves one fewer that may follow; the last of them may hold no more than four bits
  induction h generalizing left with
  | @last b hlast =>
    cases left with
    | zero =>
      have hfits : ¬ 15 < b := by
        rw [UInt8.lt_iff_toNat_lt]
        show ¬ 15 < b.toNat
        omega
      unfold varintFrom
      refine Reads.byte_bind ?_
      rw [if_neg hfits]
      exact Reads.pure b.toNat
    | succ left =>
      unfold varintFrom
      refine Reads.byte_bind ?_
      rw [if_pos hlast]
      exact Reads.pure b.toNat
  | @more b bytes n hmore hrest ih =>
    cases left with
    | zero =>
      have hsome : 0 < bytes.length := List.length_pos_iff.mpr hrest.ne_nil
      rw [List.length_cons] at hlength
      omega
    | succ left =>
      rw [List.length_cons] at hlength
      rw [Nat.pow_succ] at hn
      unfold varintFrom
      refine Reads.byte_bind ?_
      rw [if_neg (UInt8.not_lt.mpr hmore)]
      exact (ih (by omega) (by omega)).bind_pure fun high => b.toNat % 128 + 128 * high

/-- **A number below 2^32 is read as it was written.** -/
theorem reads_varint {n : Nat} (h : n < 2 ^ 32) : Reads varint (Blocklist.varint n) n :=
  Reads.here_bind fun offset =>
    (isVarint_varint n).reads offset (length_varint_le (by omega)) (by omega)

/-! ## Positions -/

/-- What fits in a word is what the word says. -/
theorem toNat_toUInt32_of_lt {n : Nat} (h : n < 2 ^ 32) : n.toUInt32.toNat = n :=
  UInt32.toNat_ofNat_of_lt' h

theorem toNat_sub_toUInt32 {p q : Nat} (hp : p < 2 ^ 32) (hq : q ≤ p) :
    (p.toUInt32 - q.toUInt32).toNat = p - q := by
  rw [UInt32.toNat_sub, toNat_toUInt32_of_lt hp, toNat_toUInt32_of_lt (by omega)]
  omega

/-- The steps to ascending positions lead back to them. -/
theorem reads_positionsFrom {limit : Nat} {positions : List Nat}
    (hwords : ∀ p ∈ positions, p < 2 ^ 32) (hrow : IsRow limit positions) {previous : Option Nat}
    (hprevious : ∀ q ∈ previous, ∀ p ∈ positions, q < p) :
    Reads (positionsFrom limit previous positions.length)
      ((steps (previous.getD 0).toUInt32 (positions.map (·.toUInt32))).flatMap
        fun step => Blocklist.varint step.toNat)
      positions := by
  induction positions generalizing previous with
  | nil => exact Reads.pure []
  | cons p positions ih =>
    obtain ⟨hascending, hbelow⟩ := hrow
    obtain ⟨hp, hrest⟩ := List.pairwise_cons.mp hascending
    have hlt : p < limit := hbelow p (List.mem_cons_self ..)
    have hword : p < 2 ^ 32 := hwords p (List.mem_cons_self ..)
    have hle : previous.getD 0 ≤ p := by
      cases previous with
      | none => exact Nat.zero_le p
      | some q => exact Nat.le_of_lt (hprevious q rfl p (List.mem_cons_self ..))
    have hstep : (p.toUInt32 - (previous.getD 0).toUInt32).toNat = p - previous.getD 0 :=
      toNat_sub_toUInt32 hword hle
    have hmoves : ¬ (previous.isSome && p - previous.getD 0 == 0) := by
      cases previous with
      | none => simp
      | some q =>
        have := hprevious q rfl p (List.mem_cons_self ..)
        simp only [Option.isSome_some, Option.getD_some, Bool.true_and, beq_iff_eq]
        omega
    have hreach : previous.getD 0 + (p - previous.getD 0) = p := by omega
    have hlater : ∀ q ∈ some p, ∀ r ∈ positions, q < r := by
      rintro q hq r hr
      exact Option.some.inj hq ▸ hp r hr
    have htail := ih (fun r hr => hwords r (List.mem_cons_of_mem _ hr))
      ⟨hrest, fun r hr => hbelow r (List.mem_cons_of_mem _ hr)⟩ hlater
    -- neither check fires, and the step leads from the position before to `p`
    unfold positionsFrom
    refine Reads.here_bind fun offset => ?_
    rw [List.map_cons, steps, List.flatMap_cons, hstep]
    refine (reads_varint (by omega)).bind ?_
    rw [if_neg hmoves]
    dsimp only
    rw [hreach, if_neg (by omega), if_neg (by omega)]
    exact htail.bind_pure (p :: ·)

theorem length_le_length_flatMap {write : α → List UInt8} (hwrite : ∀ a, 0 < (write a).length)
    (items : List α) : items.length ≤ (items.flatMap write).length := by
  induction items with
  | nil => exact Nat.le_refl 0
  | cons a items ih =>
    have := hwrite a
    rw [List.flatMap_cons, List.length_append, List.length_cons]
    omega

theorem length_steps (previous : UInt32) (positions : List UInt32) :
    (steps previous positions).length = positions.length := by
  induction positions generalizing previous with
  | nil => rfl
  | cons p positions ih => rw [steps, List.length_cons, List.length_cons, ih]

/-- Every step takes a byte at least. -/
theorem length_le_length_stepBytes (previous : UInt32) (positions : List UInt32) :
    positions.length
      ≤ ((steps previous positions).flatMap fun step => Blocklist.varint step.toNat).length := by
  have hsteps := length_le_length_flatMap (fun step : UInt32 => length_varint_pos step.toNat)
    (steps previous positions)
  rwa [length_steps] at hsteps

/-- **A row of positions is read as it was written.** -/
theorem reads_postings {limit : Nat} {positions : List Nat} (hwords : ∀ p ∈ positions, p < 2 ^ 32)
    (hrow : IsRow limit positions) (hcount : positions.length < 2 ^ 32) :
    Reads (postings limit) (postingBytes (positions.map (·.toUInt32))) positions := by
  have hsteps := length_le_length_stepBytes 0 (positions.map (·.toUInt32))
  rw [List.length_map] at hsteps
  rw [postingBytes, List.length_map, toNat_toUInt32_of_lt hcount]
  unfold postings
  refine (reads_varint hcount).bind (Reads.remaining_bind fun left hleft => ?_)
  rw [if_neg (by omega)]
  have hfirst : ∀ q ∈ (none : Option Nat), ∀ p ∈ positions, q < p := by simp
  exact reads_positionsFrom hwords hrow hfirst

/-! ## Records -/

/-- A number of records is read where they follow. -/
theorem Reads.count_bind {next : Nat → Reader β} {n : Nat} (hn : n < 2 ^ 32)
    (hle : n ≤ more.length) (h : Reads (next n) more result) :
    Reads (count >>= next) (Blocklist.varint n ++ more) result := by
  unfold count
  simp only [bind_assoc]
  refine Reads.here_bind fun offset => (reads_varint hn).bind ?_
  refine Reads.remaining_bind fun left hleft => ?_
  rw [if_neg (by omega), pure_bind]
  exact h

/-- Records are read one after the other. -/
theorem reads_repeated {write : α → List UInt8} {items : List α}
    (h : ∀ a ∈ items, Reads read (write a) a) :
    Reads (repeated read items.length) (items.flatMap write) items := by
  induction items with
  | nil => exact Reads.pure []
  | cons a items ih =>
    have hitems := ih fun b hb => h b (List.mem_cons_of_mem _ hb)
    unfold repeated
    rw [List.flatMap_cons]
    exact (h a (List.mem_cons_self ..)).bind (hitems.bind_pure (a :: ·))

/-- A reader that takes all of these bytes, as those of a section, and gives this value. -/
def ReadsAll (read : Reader α) (bytes : List UInt8) (value : α) : Prop :=
  ∀ offset, (read.run ⟨offset, bytes⟩).map Prod.fst = .ok value

/-- Nothing is left of a section that holds these bytes alone. -/
theorem Reads.finish (h : Reads read bytes value) (f : α → β) :
    ReadsAll (read >>= fun a => finish >>= fun _ => Pure.pure (f a)) bytes (f value) := by
  intro offset
  have hrun := h offset []
  rw [List.append_nil] at hrun
  rw [StateT.run_bind, hrun]
  rfl

end Reader

end Blocklist
