import Mathlib.Data.Nat.Digits.Defs
import Blocklist.Proofs.Checks
import Blocklist.Proofs.Snapshot.Reads
/-!
# Snapshots — which bytes are numbers

A number is read of bytes exactly where they begin with one, of five bytes
at most and of 32 bits (`varint_eq_ok_iff`), and it need not be the shortest
that is possible: groups of zeros may stand at its end.

Main statement: numbers and rows of positions are read as they were written,
and nothing but numbers is read (`varint_and_postings`).
-/

namespace Blocklist

namespace Reader

variable {α : Type} {bytes : List UInt8} {n left start offset : Nat} {c : Cursor}

/-- Bytes that are a number of 32 bits, in five bytes at most. -/
structure IsNumber (bytes : List UInt8) (n : Nat) : Prop where
  /-- There are no more than five bytes. -/
  length : bytes.length ≤ 5
  /-- Every byte but the last has its high bit set. -/
  more : ∀ b ∈ bytes.dropLast, 128 ≤ b
  /-- There is a last byte, and it has not. -/
  last : ∃ b ∈ bytes.getLast?, b < 128
  /-- The low seven bits of each byte are the digits of the number, lowest first. -/
  value : Nat.ofDigits 128 (bytes.map fun b => b.toNat % 128) = n
  /-- The number has 32 bits. -/
  small : n < 2 ^ 32

/-- A byte can be read where there is one. -/
theorem byte_bind_eq_ok_iff {next : UInt8 → Reader α} {result : α × Cursor} :
    (byte >>= next).run ⟨offset, bytes⟩ = .ok result
      ↔ ∃ b rest, bytes = b :: rest ∧ (next b).run ⟨offset + 1, rest⟩ = .ok result := by
  cases bytes with
  | nil =>
    constructor
    · intro h
      exact nomatch h
    · rintro ⟨b, rest, h, -⟩
      exact nomatch h
  | cons b rest =>
    constructor
    · intro h
      exact ⟨b, rest, rfl, h⟩
    · rintro ⟨b', rest', h, hnext⟩
      obtain ⟨rfl, rfl⟩ := List.cons.inj h
      exact hnext

/-- **What is read, is a number** that the bytes begin with. -/
theorem exists_isVarint_of_varintFrom
    (h : (varintFrom start left).run ⟨offset, bytes⟩ = .ok (n, c)) :
    ∃ taken rest, bytes = taken ++ rest ∧ c = ⟨offset + taken.length, rest⟩ ∧ IsVarint taken n
      ∧ taken.length ≤ left + 1 ∧ n < 16 * 128 ^ left := by
  induction left generalizing offset bytes n with
  | zero =>
    obtain ⟨b, rest, rfl, hrun⟩ := byte_bind_eq_ok_iff.mp h
    by_cases hlarge : 15 < b
    · rw [if_pos hlarge] at hrun
      exact nomatch hrun
    · rw [if_neg hlarge] at hrun
      obtain ⟨rfl, rfl⟩ := Prod.mk.inj (Except.ok.inj hrun)
      have hsmall : b.toNat ≤ 15 := UInt8.le_iff_toNat_le.mp (UInt8.not_lt.mp hlarge)
      have hlast : b < 128 := UInt8.lt_iff_toNat_lt.mpr (Nat.lt_of_le_of_lt hsmall (by decide))
      exact ⟨[b], rest, rfl, rfl, .last hlast, Nat.le_refl 1, by omega⟩
  | succ left ih =>
    obtain ⟨b, rest, rfl, hrun⟩ := byte_bind_eq_ok_iff.mp h
    by_cases hlast : b < 128
    · rw [if_pos hlast] at hrun
      obtain ⟨rfl, rfl⟩ := Prod.mk.inj (Except.ok.inj hrun)
      have hsmall : b.toNat < 128 := UInt8.lt_iff_toNat_lt.mp hlast
      have hpow : 1 ≤ 128 ^ left := Nat.one_le_pow _ _ (by decide)
      refine ⟨[b], rest, rfl, rfl, .last hlast, Nat.succ_le_succ (Nat.zero_le _), ?_⟩
      rw [Nat.pow_succ]
      omega
    · rw [if_neg hlast, StateT.run_bind] at hrun
      obtain ⟨⟨high, c'⟩, hhigh, hvalue⟩ := bind_eq_ok_iff.mp hrun
      obtain ⟨rfl, rfl⟩ := Prod.mk.inj (Except.ok.inj hvalue)
      obtain ⟨taken, rest', rfl, rfl, hnumber, hlength, hn⟩ := ih hhigh
      refine ⟨b :: taken, rest', rfl, ?_, .more (UInt8.not_lt.mp hlast) hnumber,
        Nat.succ_le_succ hlength, ?_⟩
      · rw [List.length_cons, Nat.add_assoc, Nat.add_comm 1]
      · rw [Nat.pow_succ]
        omega

/-- **What is a number, told byte by byte.** -/
theorem isVarint_iff : IsVarint bytes n ↔ (∀ b ∈ bytes.dropLast, 128 ≤ b)
    ∧ (∃ b ∈ bytes.getLast?, b < 128)
    ∧ Nat.ofDigits 128 (bytes.map fun b => b.toNat % 128) = n := by
  constructor
  · intro h
    induction h with
    | @last b hlast =>
      have hsmall : b.toNat < 128 := UInt8.lt_iff_toNat_lt.mp hlast
      refine ⟨by simp, ⟨b, rfl, hlast⟩, ?_⟩
      rw [List.map_singleton, Nat.ofDigits_singleton, Nat.mod_eq_of_lt hsmall]
    | @more b bytes n hmore hrest ih =>
      obtain ⟨hfront, ⟨last, hlast, hsmall⟩, hvalue⟩ := ih
      have hne := hrest.ne_nil
      refine ⟨?_, ⟨last, ?_, hsmall⟩, ?_⟩
      · rw [List.dropLast_cons_of_ne_nil hne]
        exact List.forall_mem_cons.mpr ⟨hmore, hfront⟩
      · rw [List.getLast?_cons_of_ne_nil hne]
        exact hlast
      · rw [List.map_cons, Nat.ofDigits_cons, hvalue]
  · rintro ⟨hfront, ⟨last, hlast, hsmall⟩, rfl⟩
    induction bytes with
    | nil => exact nomatch hlast
    | cons b bytes ih =>
      rw [List.map_cons, Nat.ofDigits_cons]
      cases bytes with
      | nil =>
        obtain rfl : b = last := Option.some.inj hlast
        have hvalue : b.toNat % 128 = b.toNat :=
          Nat.mod_eq_of_lt (UInt8.lt_iff_toNat_lt.mp hsmall)
        have h := IsVarint.last hsmall
        rwa [← hvalue] at h
      | cons b' bytes =>
        obtain ⟨hmore, hfront⟩ := List.forall_mem_cons.mp hfront
        exact .more hmore (ih hfront hlast)

theorem run_here_bind (next : Nat → Reader α) (c : Cursor) :
    (here >>= next).run c = (next c.offset).run c := rfl

theorem run_varint (c : Cursor) : varint.run c = (varintFrom c.offset 4).run c := by
  rw [varint, run_here_bind]

/-- **What is read of any bytes**: the number that they begin with, where there is one. -/
theorem varint_eq_ok_iff : varint.run ⟨offset, bytes⟩ = .ok (n, c)
    ↔ ∃ taken rest, bytes = taken ++ rest ∧ c = ⟨offset + taken.length, rest⟩
      ∧ IsNumber taken n := by
  rw [run_varint]
  constructor
  · intro h
    obtain ⟨taken, rest, hbytes, hc, hnumber, hlength, hn⟩ := exists_isVarint_of_varintFrom h
    obtain ⟨hmore, hlast, hvalue⟩ := isVarint_iff.mp hnumber
    exact ⟨taken, rest, hbytes, hc, hlength, hmore, hlast, hvalue, by omega⟩
  · rintro ⟨taken, rest, rfl, rfl, hnumber⟩
    have hvarint := isVarint_iff.mpr ⟨hnumber.more, hnumber.last, hnumber.value⟩
    have hsmall := hnumber.small
    exact hvarint.reads offset hnumber.length (by omega) offset rest

/-- Positions of 32 bits are read as they were written. -/
theorem reads_postingBytes {limit : Nat} {positions : List UInt32}
    (hascending : positions.Pairwise (· < ·)) (hbelow : ∀ p ∈ positions, p.toNat < limit)
    (hcount : positions.length < 2 ^ 32) :
    Reads (postings limit) (postingBytes positions) (positions.map UInt32.toNat) := by
  have hrow : IsRow limit (positions.map UInt32.toNat) := by
    refine ⟨List.pairwise_map.mpr (hascending.imp UInt32.lt_iff_toNat_lt.mp), ?_⟩
    exact List.forall_mem_map.mpr hbelow
  have hwords : ∀ p ∈ positions.map UInt32.toNat, p < 2 ^ 32 :=
    List.forall_mem_map.mpr fun p _ => p.toNat_lt
  have hsame : (positions.map UInt32.toNat).map (·.toUInt32) = positions := by
    rw [List.map_map]
    exact List.map_id'' (fun p => UInt32.ofNat_toNat) positions
  have h := reads_postings hwords hrow (by rwa [List.length_map])
  rwa [hsame] at h

/-- **Numbers and rows of positions come back.** A number of 32 bits is written in five bytes at
most, and read as it was written; of any bytes a number is read exactly where they begin with one;
and ascending positions below a limit are read as they were written. Whatever follows is left. -/
theorem varint_and_postings :
    (∀ v : UInt32, (Blocklist.varint v.toNat).length ≤ 5
      ∧ Reads varint (Blocklist.varint v.toNat) v.toNat)
    ∧ (∀ offset bytes n c, varint.run ⟨offset, bytes⟩ = .ok (n, c)
      ↔ ∃ taken rest, bytes = taken ++ rest ∧ c = ⟨offset + taken.length, rest⟩
        ∧ IsNumber taken n)
    ∧ ∀ (limit : Nat) (positions : List UInt32), positions.Pairwise (· < ·) →
      (∀ p ∈ positions, p.toNat < limit) → positions.length < 2 ^ 32 →
      Reads (postings limit) (postingBytes positions) (positions.map UInt32.toNat) := by
  refine ⟨fun v => ?_, fun _ _ _ _ => varint_eq_ok_iff, fun _ _ => reads_postingBytes⟩
  have hsmall := v.toNat_lt
  exact ⟨length_varint_le (by omega), reads_varint hsmall⟩

/-- Positions at both ends of what 32 bits hold; the first step is zero, and the last takes five
bytes. -/
theorem varint_and_postings_ends :
    ([0, 300, 4294967295] : List UInt32).Pairwise (· < ·)
      ∧ (∀ p ∈ ([0, 300, 4294967295] : List UInt32), p.toNat < 4294967296)
      ∧ ([0, 300, 4294967295] : List UInt32).length < 2 ^ 32
      ∧ Reads (postings 4294967296) [3, 0, 0xac, 0x02, 0xd3, 0xfd, 0xff, 0xff, 0x0f]
        [0, 300, 4294967295] := by
  have hascending : ([0, 300, 4294967295] : List UInt32).Pairwise (· < ·) := by decide
  have hbelow : ∀ p ∈ ([0, 300, 4294967295] : List UInt32), p.toNat < 4294967296 :=
    fun p _ => p.toNat_lt
  have hcount : ([0, 300, 4294967295] : List UInt32).length < 2 ^ 32 := by decide
  have hbytes : postingBytes [0, 300, 4294967295]
      = [3, 0, 0xac, 0x02, 0xd3, 0xfd, 0xff, 0xff, 0x0f] := by decide +kernel
  obtain ⟨-, -, hpostings⟩ := varint_and_postings
  have hread := hpostings 4294967296 _ hascending hbelow hcount
  rw [hbytes] at hread
  exact ⟨hascending, hbelow, hcount, hread⟩

end Reader

end Blocklist
