import Mathlib.Algebra.GroupWithZero.Nat
import Blocklist.Hash.Crc32
/-!
# Hashes — what a checksum catches

A byte's step is eight bits of division of the state with the byte in it
(`byteStep_eq`), and division loses nothing (`bitSteps_injective`). So no
change within four bytes in a row goes unnoticed: up to four bytes are the
division of a single word that holds them (`foldl_byteStep_eq`), and later
bytes keep states apart. Main statement: `crc32_ne_of_ne`.
-/

namespace Blocklist

namespace Crc32

/-! ## Division bit by bit -/

theorem toNat_shiftRight_one (c : UInt32) : (c >>> 1).toNat = c.toNat / 2 := by
  rw [UInt32.toNat_shiftRight]
  exact Nat.shiftRight_eq_div_pow c.toNat 1

/-- Whether the low bit is set. -/
def isOdd (c : UInt32) : Bool := c.toNat.testBit 0

theorem isOdd_xor (a b : UInt32) : isOdd (a ^^^ b) = (isOdd a ^^ isOdd b) := by
  rw [isOdd, UInt32.toNat_xor, Nat.testBit_xor]
  rfl

theorem and_one_eq_zero_iff (c : UInt32) : c &&& 1 = 0 ↔ isOdd c = false := by
  rw [← UInt32.toNat_inj, UInt32.toNat_and, isOdd, Nat.testBit_zero]
  show c.toNat &&& 1 = 0 ↔ _
  rw [Nat.and_one_is_mod, decide_eq_false_iff_not]
  omega

/-- A step in one term. -/
theorem bitStep_eq (c : UInt32) :
    bitStep c = (c >>> 1) ^^^ (if isOdd c then 0xedb88320 else 0) := by
  unfold bitStep
  cases hodd : isOdd c with
  | false => rw [if_pos ((and_one_eq_zero_iff c).mpr hodd)]; simp
  | true =>
    rw [if_neg fun h => absurd ((and_one_eq_zero_iff c).mp h) (by rw [hodd]; decide)]
    rfl

/-- **A step is linear.** -/
theorem bitStep_xor (a b : UInt32) : bitStep (a ^^^ b) = bitStep a ^^^ bitStep b := by
  rw [bitStep_eq, bitStep_eq a, bitStep_eq b, isOdd_xor, UInt32.shiftRight_xor]
  generalize a >>> 1 = x
  generalize b >>> 1 = y
  cases isOdd a <;> cases isOdd b
  · simp
  · simp [UInt32.xor_assoc]
  · simp [UInt32.xor_assoc, UInt32.xor_comm y]
  · -- the polynomial goes twice, and so not at all
    show x ^^^ y ^^^ 0 = x ^^^ 0xedb88320 ^^^ (y ^^^ 0xedb88320)
    rw [UInt32.xor_zero, UInt32.xor_assoc x, UInt32.xor_comm y, ← UInt32.xor_assoc 0xedb88320,
      UInt32.xor_self, UInt32.zero_xor]

theorem bitSteps_xor (n : Nat) (a b : UInt32) :
    bitSteps n (a ^^^ b) = bitSteps n a ^^^ bitSteps n b := by
  induction n generalizing a b with
  | zero => rfl
  | succ n ih => rw [bitSteps, bitStep_xor, ih]; rfl

theorem bitSteps_add (m n : Nat) (c : UInt32) :
    bitSteps (m + n) c = bitSteps n (bitSteps m c) := by
  induction m generalizing c with
  | zero => rw [Nat.zero_add]; rfl
  | succ m ih => rw [Nat.succ_add]; exact ih (bitStep c)

/-- Nothing but zero leaves zero behind. -/
theorem eq_zero_of_bitStep {c : UInt32} (h : bitStep c = 0) : c = 0 := by
  have hlt : c.toNat < 2 ^ 32 := c.toNat_lt
  rw [bitStep_eq, UInt32.xor_eq_zero_iff, ← UInt32.toNat_inj, toNat_shiftRight_one] at h
  cases hodd : isOdd c with
  | false =>
    rw [hodd] at h
    rw [isOdd, Nat.testBit_zero, decide_eq_false_iff_not] at hodd
    refine UInt32.toNat_inj.mp (show c.toNat = 0 from ?_)
    have h : c.toNat / 2 = 0 := h
    omega
  | true =>
    -- the polynomial has the highest bit, and half of a word has not
    rw [hodd] at h
    have h : c.toNat / 2 = 0xedb88320 := h
    omega

theorem bitStep_injective {a b : UInt32} (h : bitStep a = bitStep b) : a = b := by
  refine UInt32.xor_eq_zero_iff.mp (eq_zero_of_bitStep ?_)
  rw [bitStep_xor, h, UInt32.xor_self]

theorem bitSteps_injective {n : Nat} {a b : UInt32} (h : bitSteps n a = bitSteps n b) : a = b := by
  induction n generalizing a b with
  | zero => exact h
  | succ n ih => exact bitStep_injective (ih h)

/-- Over zeros a word goes out as it is. -/
theorem bitSteps_of_toNat {n : Nat} {c d : UInt32} (h : d.toNat = c.toNat * 2 ^ n) :
    bitSteps n d = c := by
  induction n generalizing d with
  | zero =>
    rw [Nat.pow_zero, Nat.mul_one] at h
    exact UInt32.toNat_inj.mp h
  | succ n ih =>
    rw [Nat.pow_succ, ← Nat.mul_assoc] at h
    -- no bit falls out as long as zeros are left, so a step only halves
    have heven : isOdd d = false := by
      rw [isOdd, Nat.testBit_zero, decide_eq_false_iff_not]
      omega
    have hhalf : bitStep d = d >>> 1 := by
      rw [bitStep_eq, heven]
      exact UInt32.xor_zero
    rw [bitSteps, hhalf]
    refine ih ?_
    rw [toNat_shiftRight_one, h]
    omega

/-! ## Bytes -/

theorem remainders_get (i : Fin 256) : remainders.get i = bitSteps 8 i.val.toUInt32 := by
  show remainders[i.val] = _
  rw [remainders, Vector.getElem_ofFn]

/-- A word is its low byte and what stands above it. -/
theorem eq_low_xor_high (x : UInt32) :
    x = (x.toNat % 256).toUInt32 ^^^ ((x >>> 8) <<< 8) := by
  have hlow : (x.toNat % 256).toUInt32.toNat = x.toNat % 2 ^ 8 := by
    rw [Nat.toUInt32, UInt32.toNat_ofNat']
    omega
  have hhigh : ((x >>> 8) <<< 8).toNat = x.toNat >>> 8 <<< 8 := by
    rw [UInt32.toNat_shiftLeft, UInt32.toNat_shiftRight]
    have hx : x.toNat < 2 ^ 32 := x.toNat_lt
    show x.toNat >>> 8 <<< 8 % 2 ^ 32 = _
    rw [Nat.shiftLeft_eq, Nat.shiftRight_eq_div_pow]
    omega
  refine UInt32.toNat_inj.mp (Nat.eq_of_testBit_eq fun i => ?_)
  rw [UInt32.toNat_xor, Nat.testBit_xor, hlow, hhigh, Nat.testBit_mod_two_pow,
    Nat.testBit_shiftLeft, Nat.testBit_shiftRight]
  by_cases hi : i < 8
  · simp [hi, Nat.not_le.mpr hi]
  · have hle : 8 ≤ i := Nat.not_lt.mp hi
    simp [hi, hle]

theorem toNat_shiftRight_eight (x : UInt32) : (x >>> 8).toNat = x.toNat / 256 := by
  rw [UInt32.toNat_shiftRight]
  exact Nat.shiftRight_eq_div_pow x.toNat 8

theorem toUInt32_shiftRight_eight (byte : UInt8) : byte.toUInt32 >>> 8 = 0 := by
  have hbyte : byte.toNat < 256 := byte.toNat_lt
  refine UInt32.toNat_inj.mp ?_
  rw [toNat_shiftRight_eight, UInt8.toNat_toUInt32]
  show byte.toNat / 256 = 0
  omega

/-- Eight bits of division see the low byte alone. -/
theorem bitSteps_eight (x : UInt32) :
    bitSteps 8 x = bitSteps 8 (x.toNat % 256).toUInt32 ^^^ (x >>> 8) := by
  have hover : bitSteps 8 ((x >>> 8) <<< 8) = x >>> 8 := by
    refine bitSteps_of_toNat ?_
    have hlt : x.toNat < 2 ^ 32 := x.toNat_lt
    rw [UInt32.toNat_shiftLeft, toNat_shiftRight_eight]
    show (x.toNat / 256) <<< 8 % 2 ^ 32 = x.toNat / 256 * 2 ^ 8
    rw [Nat.shiftLeft_eq]
    omega
  calc bitSteps 8 x
      = bitSteps 8 ((x.toNat % 256).toUInt32 ^^^ ((x >>> 8) <<< 8)) := by rw [← eq_low_xor_high]
    _ = bitSteps 8 (x.toNat % 256).toUInt32 ^^^ (x >>> 8) := by rw [bitSteps_xor, hover]

/-- **A byte's step is eight bits of division**, of the state with the byte in it. -/
theorem byteStep_eq (crc : UInt32) (byte : UInt8) :
    byteStep crc byte = bitSteps 8 (crc ^^^ byte.toUInt32) := by
  have habove : (crc ^^^ byte.toUInt32) >>> 8 = crc >>> 8 := by
    rw [UInt32.shiftRight_xor, toUInt32_shiftRight_eight, UInt32.xor_zero]
  rw [byteStep, remainders_get, bitSteps_eight (crc ^^^ byte.toUInt32), habove]

theorem byteStep_injective {a b : UInt32} {byte : UInt8} (h : byteStep a byte = byteStep b byte) :
    a = b := by
  rw [byteStep_eq, byteStep_eq] at h
  exact (UInt32.xor_left_inj _).mp (bitSteps_injective h)

/-- Bytes keep states apart. -/
theorem foldl_byteStep_injective {bytes : List UInt8} {a b : UInt32}
    (h : bytes.foldl byteStep a = bytes.foldl byteStep b) : a = b := by
  induction bytes generalizing a b with
  | nil => exact h
  | cons byte bytes ih => exact byteStep_injective (ih h)

/-! ## Up to four bytes -/

/-- Bytes as one word, the first one lowest. -/
def pack : List UInt8 → UInt32
  | [] => 0
  | byte :: bytes => byte.toUInt32 ^^^ (pack bytes <<< 8)

theorem toNat_xor_shiftLeft (byte : UInt8) {c : UInt32} (h : c.toNat < 2 ^ 24) :
    (byte.toUInt32 ^^^ (c <<< 8)).toNat = 2 ^ 8 * c.toNat + byte.toNat := by
  have hbyte : byte.toNat < 2 ^ 8 := byte.toNat_lt
  have hshift : (c <<< 8).toNat = c.toNat <<< 8 := by
    rw [UInt32.toNat_shiftLeft]
    show c.toNat <<< 8 % 2 ^ 32 = _
    rw [Nat.shiftLeft_eq]
    omega
  refine Nat.eq_of_testBit_eq fun i => ?_
  rw [UInt32.toNat_xor, Nat.testBit_xor, hshift, UInt8.toNat_toUInt32,
    Nat.testBit_two_pow_mul_add _ hbyte, Nat.testBit_shiftLeft]
  by_cases hi : i < 8
  · simp [hi, Nat.not_le.mpr hi]
  · have hle : 8 ≤ i := Nat.not_lt.mp hi
    have hzero : byte.toNat.testBit i = false :=
      Nat.testBit_lt_two_pow (Nat.lt_of_lt_of_le hbyte (Nat.pow_le_pow_right (by decide) hle))
    simp [hi, hle, hzero]

theorem toNat_pack_lt {bytes : List UInt8} (h : bytes.length ≤ 4) :
    (pack bytes).toNat < 2 ^ (8 * bytes.length) := by
  induction bytes with
  | nil => exact Nat.one_pos
  | cons byte bytes ih =>
    rw [List.length_cons] at h
    have hbyte : byte.toNat < 2 ^ 8 := byte.toNat_lt
    have hrest := ih (by omega)
    have hroom : (pack bytes).toNat < 2 ^ 24 :=
      Nat.lt_of_lt_of_le hrest (Nat.pow_le_pow_right (by decide) (by omega))
    have hpow : 2 ^ (8 * (bytes.length + 1)) = 2 ^ 8 * 2 ^ (8 * bytes.length) := by
      rw [Nat.mul_succ, Nat.pow_add, Nat.mul_comm]
    rw [pack, toNat_xor_shiftLeft byte hroom, List.length_cons, hpow]
    omega

/-- A byte more has room below a word of three. -/
theorem toNat_pack_lt_of_length_le_three {bytes : List UInt8} (h : bytes.length ≤ 3) :
    (pack bytes).toNat < 2 ^ 24 :=
  Nat.lt_of_lt_of_le (toNat_pack_lt (by omega)) (Nat.pow_le_pow_right (by decide) (by omega))

/-- Different bytes make different words. -/
theorem pack_injective {first second : List UInt8} (hlength : first.length = second.length)
    (hfour : first.length ≤ 4) (h : pack first = pack second) : first = second := by
  induction first generalizing second with
  | nil => exact (List.length_eq_zero_iff.mp hlength.symm).symm
  | cons b first ih =>
    cases second with
    | nil => simp at hlength
    | cons c second =>
      simp only [List.length_cons, Nat.add_right_cancel_iff] at hlength hfour
      have hb : b.toNat < 2 ^ 8 := b.toNat_lt
      have hc : c.toNat < 2 ^ 8 := c.toNat_lt
      have h : (pack (b :: first)).toNat = (pack (c :: second)).toNat := congrArg UInt32.toNat h
      rw [pack, pack, toNat_xor_shiftLeft b (toNat_pack_lt_of_length_le_three (by omega)),
        toNat_xor_shiftLeft c (toNat_pack_lt_of_length_le_three (by omega))] at h
      have hbyte : b = c := UInt8.toNat_inj.mp (by omega)
      have hrest : pack first = pack second := UInt32.toNat_inj.mp (by omega)
      rw [hbyte, ih hlength (by omega) hrest]

/-- **A few bytes are the division of one word.** -/
theorem foldl_byteStep_eq {bytes : List UInt8} (h : bytes.length ≤ 4) (crc : UInt32) :
    bytes.foldl byteStep crc = bitSteps (8 * bytes.length) (crc ^^^ pack bytes) := by
  induction bytes generalizing crc with
  | nil => exact UInt32.xor_zero.symm
  | cons byte bytes ih =>
    rw [List.length_cons] at h
    have hroom : (pack bytes).toNat < 2 ^ 24 := toNat_pack_lt_of_length_le_three (by omega)
    -- the later bytes only come down by eight bits while the first one is divided
    have hlate : bitSteps 8 (pack bytes <<< 8) = pack bytes := by
      refine bitSteps_of_toNat ?_
      rw [UInt32.toNat_shiftLeft]
      show (pack bytes).toNat <<< 8 % 2 ^ 32 = _
      rw [Nat.shiftLeft_eq]
      omega
    have hone : byteStep crc byte ^^^ pack bytes = bitSteps 8 (crc ^^^ pack (byte :: bytes)) := by
      rw [byteStep_eq, pack, ← UInt32.xor_assoc, bitSteps_xor 8 (crc ^^^ byte.toUInt32), hlate]
    rw [List.foldl_cons, ih (by omega), hone, ← bitSteps_add, List.length_cons, Nat.mul_succ,
      Nat.add_comm]

/-- **No change within four bytes in a row goes unnoticed.** -/
theorem foldl_byteStep_ne {first second : List UInt8} (hlength : first.length = second.length)
    (hfour : first.length ≤ 4) (hne : first ≠ second) (crc : UInt32) :
    first.foldl byteStep crc ≠ second.foldl byteStep crc := by
  intro h
  rw [foldl_byteStep_eq hfour, foldl_byteStep_eq (hlength ▸ hfour), hlength] at h
  exact hne (pack_injective hlength hfour ((UInt32.xor_right_inj _).mp (bitSteps_injective h)))

end Crc32

/-- **Bytes that differ within four in a row have different checksums.** -/
theorem crc32_ne_of_ne {front first second back : List UInt8}
    (hlength : first.length = second.length) (hfour : first.length ≤ 4) (hne : first ≠ second) :
    crc32 (front ++ first ++ back) ≠ crc32 (front ++ second ++ back) := by
  intro h
  rw [crc32_eq, crc32_eq, UInt32.xor_left_inj] at h
  simp only [List.foldl_append] at h
  exact Crc32.foldl_byteStep_ne hlength hfour hne _ (Crc32.foldl_byteStep_injective h)

end Blocklist
