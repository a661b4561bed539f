import Mathlib.Logic.Function.Defs
import Blocklist.Proofs.Hash.Crc32
import Blocklist.Snapshot.Layout
/-!
# Hashes — CRC-32 a bit at a time

The checksum by its definition: the message goes in bit by bit, the lowest
bit of each byte first, and no table is used (`Crc32.bitwise`). Eight bits
go in as one step by the table (`byteStep_eq_foldl_shiftIn`), since a bit of
the message and the low bit of the state only count together; and how the
message is cut into parts does not count (`crc32Parts_eq`). Main statement:
`crc32Parts_by_bits`.
-/

namespace Blocklist

namespace Crc32

variable {first second : List UInt8}

/-! ## Bits -/

/-- The lowest `n` bits of a word, the lowest one first. -/
def lowBits (n : Nat) (word : UInt32) : List Bool := (List.range n).map word.toNat.testBit

/-- The bits of a byte, the lowest one first. -/
def bitsOf (byte : UInt8) : List Bool := lowBits 8 byte.toUInt32

/-- The state after one more bit of the message: the reflected polynomial is subtracted where the
bit that falls out and the bit of the message differ. -/
def shiftIn (crc : UInt32) (bit : Bool) : UInt32 :=
  (crc >>> 1) ^^^ (if crc.toNat.testBit 0 != bit then 0xedb88320 else 0)

/-- CRC-32 of some bytes, a bit at a time. -/
def bitwise (bytes : List UInt8) : UInt32 :=
  (bytes.flatMap bitsOf).foldl shiftIn 0xffffffff ^^^ 0xffffffff

theorem lowBits_succ (n : Nat) (word : UInt32) :
    lowBits (n + 1) word = isOdd word :: lowBits n (word >>> 1) := by
  rw [lowBits, List.range_succ_eq_map, List.map_cons, List.map_map]
  refine congrArg (isOdd word :: ·) (List.map_congr_left fun i _ => ?_)
  rw [Function.comp_apply, Nat.testBit_succ, toNat_shiftRight_one]

/-- A bit of the message may be put into the state before the step. -/
theorem bitStep_xor_eq_shiftIn (crc word : UInt32) :
    bitStep (crc ^^^ word) = shiftIn crc (isOdd word) ^^^ (word >>> 1) := by
  rw [bitStep_eq, isOdd_xor, UInt32.shiftRight_xor, shiftIn, UInt32.xor_assoc, UInt32.xor_assoc,
    UInt32.xor_comm (word >>> 1)]
  rfl

/-- **Bits go in one by one or all at once.** -/
theorem foldl_shiftIn_lowBits {n : Nat} {word : UInt32} (h : word.toNat < 2 ^ n) (crc : UInt32) :
    (lowBits n word).foldl shiftIn crc = bitSteps n (crc ^^^ word) := by
  induction n generalizing crc word with
  | zero =>
    have hword : word = 0 := UInt32.toNat_inj.mp (Nat.lt_one_iff.mp h)
    rw [hword, UInt32.xor_zero]
    rfl
  | succ n ih =>
    have hhalf : (word >>> 1).toNat < 2 ^ n := by
      rw [toNat_shiftRight_one]
      omega
    rw [lowBits_succ, List.foldl_cons, ih hhalf, bitSteps, bitStep_xor_eq_shiftIn]

/-- **The step by the table is eight bits of the message.** -/
theorem byteStep_eq_foldl_shiftIn (crc : UInt32) (byte : UInt8) :
    byteStep crc byte = (bitsOf byte).foldl shiftIn crc := by
  have hbyte : byte.toUInt32.toNat < 2 ^ 8 := by
    rw [UInt8.toNat_toUInt32]
    exact byte.toNat_lt
  rw [byteStep_eq, bitsOf, foldl_shiftIn_lowBits hbyte]

theorem foldl_byteStep_eq_foldl_shiftIn (bytes : List UInt8) (crc : UInt32) :
    bytes.foldl byteStep crc = (bytes.flatMap bitsOf).foldl shiftIn crc := by
  induction bytes generalizing crc with
  | nil => rfl
  | cons byte bytes ih =>
    rw [List.foldl_cons, byteStep_eq_foldl_shiftIn, ih, List.flatMap_cons, List.foldl_append]

theorem byteStep_injective_byte (crc : UInt32) : Function.Injective (byteStep crc) := by
  intro b c h
  have h : bitSteps 8 (crc ^^^ b.toUInt32) = bitSteps 8 (crc ^^^ c.toUInt32) := by
    rw [← byteStep_eq, ← byteStep_eq, h]
  exact UInt8.toUInt32_inj.mp ((UInt32.xor_right_inj crc).mp (bitSteps_injective h))

/-! ## Differences -/

/-- Whether two texts of one length differ, but only within `n` bytes in a row. -/
structure DifferWithin (n : Nat) (first second : List UInt8) : Prop where
  /-- They are of one length. -/
  length_eq : first.length = second.length
  /-- They differ. -/
  ne : first ≠ second
  /-- There is a place before which they agree, and from which they agree after `n` bytes. -/
  agree : ∃ start, ∀ i, i < start ∨ start + n ≤ i → first[i]? = second[i]?

/-- Texts that differ within a few bytes are the same around those. -/
theorem DifferWithin.exists_eq_append {n : Nat} (h : DifferWithin n first second) :
    ∃ front middle middle' back, first = front ++ middle ++ back ∧ second = front ++ middle' ++ back
      ∧ middle.length = middle'.length ∧ middle.length ≤ n ∧ middle ≠ middle' := by
  obtain ⟨start, hagree⟩ := h.agree
  have hfront : first.take start = second.take start := by
    refine List.ext_getElem? fun i => ?_
    rw [List.getElem?_take, List.getElem?_take]
    split
    · next hi => exact hagree i (.inl hi)
    · rfl
  have hback : (first.drop start).drop n = (second.drop start).drop n := by
    refine List.ext_getElem? fun i => ?_
    rw [List.drop_drop, List.drop_drop, List.getElem?_drop, List.getElem?_drop,
      hagree _ (.inr (Nat.le_add_right ..))]
  have hcut : ∀ text : List UInt8,
      text = text.take start ++ (text.drop start).take n ++ (text.drop start).drop n := by
    intro text
    rw [List.append_assoc, List.take_append_drop, List.take_append_drop]
  refine ⟨first.take start, (first.drop start).take n, (second.drop start).take n,
    (first.drop start).drop n, hcut first, ?_, ?_, List.length_take_le .., fun hmiddle => h.ne ?_⟩
  · rw [hfront, hback]
    exact hcut second
  · rw [List.length_take, List.length_take, List.length_drop, List.length_drop, h.length_eq]
  · rw [hcut first, hcut second, hfront, hmiddle, hback]

end Crc32

open Crc32

/-- Parts in turn are read as one text. -/
theorem crc32Parts_eq (parts : List (List UInt8)) : crc32Parts parts = crc32 parts.flatten := by
  rw [crc32Parts, crc32_eq, List.foldl_flatten]

/-- **A checksum is that of the bits.** -/
theorem crc32_eq_bitwise (bytes : List UInt8) : crc32 bytes = bitwise bytes := by
  rw [crc32_eq, foldl_byteStep_eq_foldl_shiftIn, bitwise]

/-- The checksum of a file is that of the two parts around its own place. -/
theorem Layout.checksum_eq_crc32Parts (data : List UInt8) : Layout.checksum data
    = crc32Parts [data.take Layout.checksumOffset, data.drop (Layout.checksumOffset + 4)] := by
  rw [crc32Parts_eq, Layout.checksum, List.flatten_cons, List.flatten_cons, List.flatten_nil,
    List.append_nil]

/-- **The checksum is that of the bits, and catches every short change.** The parts are read as the
bits of one text. A byte's step loses nothing of the state, nor of the byte; so texts of one length
that differ only within four bytes in a row have different checksums, in whatever parts. -/
theorem crc32Parts_by_bits (parts : List (List UInt8)) :
    crc32Parts parts = bitwise parts.flatten ∧
    (∀ byte, Function.Injective fun crc => byteStep crc byte) ∧
    (∀ crc, Function.Injective (byteStep crc)) ∧
    ∀ parts' : List (List UInt8), DifferWithin 4 parts.flatten parts'.flatten →
      crc32Parts parts ≠ crc32Parts parts' := by
  refine ⟨?_, fun byte _ _ h => byteStep_injective h, byteStep_injective_byte, fun parts' h => ?_⟩
  · rw [crc32Parts_eq, crc32_eq_bitwise]
  · obtain ⟨front, middle, middle', back, hfirst, hsecond, hlength, hfour, hne⟩ :=
      h.exists_eq_append
    rw [crc32Parts_eq, crc32Parts_eq, hfirst, hsecond]
    exact crc32_ne_of_ne hlength hfour hne

theorem crc32Parts_by_bits_digits :
    crc32Parts [[0x31, 0x32], [0x33]] = bitwise [0x31, 0x32, 0x33] ∧
    crc32Parts [[0x31, 0x32], [0x33]] ≠ crc32Parts [[0x31], [0x31, 0x33]] := by
  obtain ⟨hbits, -, -, hdiffer⟩ := crc32Parts_by_bits [[0x31, 0x32], [0x33]]
  refine ⟨hbits, hdiffer _ ⟨rfl, by decide, 0, fun i hi => ?_⟩⟩
  rw [List.getElem?_eq_none (by simp; omega), List.getElem?_eq_none (by simp; omega)]

example : bitwise (Text.utf8 "123456789") = 0xcbf43926 := by decide +kernel

end Blocklist
