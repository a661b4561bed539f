/-!
# Numbers as bytes, lowest byte first
-/

namespace Blocklist

namespace LittleEndian

/-- Four bytes as a number. -/
def word (a b c d : UInt8) : UInt32 :=
  a.toUInt32 ||| (b.toUInt32 <<< 8) ||| (c.toUInt32 <<< 16) ||| (d.toUInt32 <<< 24)

/-- Two bytes as a number. -/
def half (a b : UInt8) : UInt16 := a.toUInt16 ||| (b.toUInt16 <<< 8)

/-- The four bytes of a number. -/
def ofWord (n : UInt32) : List UInt8 :=
  [n.toUInt8, (n >>> 8).toUInt8, (n >>> 16).toUInt8, (n >>> 24).toUInt8]

/-- The two bytes of a number. -/
def ofHalf (n : UInt16) : List UInt8 := [n.toUInt8, (n >>> 8).toUInt8]

/-- The number in the four bytes at an offset; zero where there are no four bytes left. -/
def wordAt (offset : Nat) (bytes : List UInt8) : UInt32 :=
  match bytes.drop offset with
  | a :: b :: c :: d :: _ => word a b c d
  | _ => 0

/-- The number in the two bytes at an offset; zero where there are no two bytes left. -/
def halfAt (offset : Nat) (bytes : List UInt8) : UInt16 :=
  match bytes.drop offset with
  | a :: b :: _ => half a b
  | _ => 0

@[simp] theorem length_ofWord (n : UInt32) : (ofWord n).length = 4 := rfl

@[simp] theorem length_ofHalf (n : UInt16) : (ofHalf n).length = 2 := rfl

/-- A number is the number of its own bytes. -/
theorem word_bytes (n : UInt32) :
    word n.toUInt8 (n >>> 8).toUInt8 (n >>> 16).toUInt8 (n >>> 24).toUInt8 = n := by
  apply UInt32.toNat_inj.mp
  apply Nat.eq_of_testBit_eq
  intro i
  simp only [word, UInt32.toNat_or, Nat.testBit_or, UInt8.toNat_toUInt32, UInt32.toNat_shiftLeft,
    UInt32.toNat_toUInt8, UInt32.toNat_shiftRight, UInt32.reduceToNat, Nat.reduceMod,
    Nat.testBit_mod_two_pow, Nat.testBit_shiftLeft, Nat.testBit_shiftRight]
  by_cases h32 : 32 ≤ i
  · have hn : n.toNat < 2 ^ i :=
      Nat.lt_of_lt_of_le n.toNat_lt (Nat.pow_le_pow_right (by decide) h32)
    simp [Nat.testBit_lt_two_pow hn, Nat.not_lt.mpr h32]
  · by_cases h8 : i < 8 <;> by_cases h16 : i < 16 <;> by_cases h24 : i < 24 <;> grind

theorem half_bytes (n : UInt16) : half n.toUInt8 (n >>> 8).toUInt8 = n := by
  apply UInt16.toNat_inj.mp
  apply Nat.eq_of_testBit_eq
  intro i
  simp only [half, UInt16.toNat_or, Nat.testBit_or, UInt8.toNat_toUInt16, UInt16.toNat_shiftLeft,
    UInt16.toNat_toUInt8, UInt16.toNat_shiftRight, UInt16.reduceToNat, Nat.reduceMod,
    Nat.testBit_mod_two_pow, Nat.testBit_shiftLeft, Nat.testBit_shiftRight]
  by_cases h16 : 16 ≤ i
  · have hn : n.toNat < 2 ^ i :=
      Nat.lt_of_lt_of_le n.toNat_lt (Nat.pow_le_pow_right (by decide) h16)
    simp [Nat.testBit_lt_two_pow hn, Nat.not_lt.mpr h16]
  · by_cases h8 : i < 8 <;> grind

@[simp] theorem wordAt_ofWord (n : UInt32) (rest : List UInt8) : wordAt 0 (ofWord n ++ rest) = n :=
  word_bytes n

@[simp] theorem halfAt_ofHalf (n : UInt16) (rest : List UInt8) : halfAt 0 (ofHalf n ++ rest) = n :=
  half_bytes n

end LittleEndian

end Blocklist
