import Blocklist.Filter.Mask
/-!
# Filters — switches of a mask

A switch that is turned on is on, and turning it off again gives the mask
from before (`without_turnOn`). The order of the switches that a mask is made
of does not count (`make_append_cons`). A mask that is made of known types has
these types (`types_make`), the switches that it is made of and no others
(`has_make`), and no bit without a meaning (`isKnown_make`). The last two hold
of the masks of cosmetic filters as well.
-/

namespace Blocklist

namespace TypeSet

variable {a b : TypeSet}

/-- Every bit is a type's. -/
def IsKnown (a : TypeSet) : Prop := a.word &&& full.word = a.word

theorem isKnown_full : full.IsKnown := rfl

theorem isKnown_empty : empty.IsKnown := rfl

theorem IsKnown.union (ha : a.IsKnown) (hb : b.IsKnown) : (a.union b).IsKnown := by
  unfold IsKnown at ha hb
  rw [IsKnown, TypeSet.union, or_and_distrib_right, ha, hb]

theorem IsKnown.without (ha : a.IsKnown) (b : TypeSet) : (a.without b).IsKnown := by
  unfold IsKnown at ha
  rw [IsKnown, TypeSet.without, UInt32.and_assoc, UInt32.and_comm _ full.word, ← UInt32.and_assoc,
    ha]

theorem isKnown_ofList (types : List RequestType) : (ofList types).IsKnown :=
  List.foldlRecOn types _ isKnown_empty fun _ h type _ => h.union (by cases type <;> rfl)

/-- Known types have nothing in common with bits that are no type's. -/
theorem IsKnown.and_eq_zero (ha : a.IsKnown) {word : UInt32} (hword : full.word &&& word = 0) :
    a.word &&& word = 0 := by
  unfold IsKnown at ha
  rw [← ha, UInt32.and_assoc, hword, UInt32.and_zero]

end TypeSet

namespace NetworkMask

variable {m : NetworkMask} {types : TypeSet} {switches : List NetworkSwitch}
variable {switch switch' : NetworkSwitch}

/-! ## One switch -/

/-- The mask with a switch turned on. -/
def turnOn (m : NetworkMask) (switch : NetworkSwitch) : NetworkMask := ⟨m.word ||| switch.bit⟩

theorem or_and_not_of_and_eq_zero {a b : UInt32} (h : a &&& b = 0) : (a ||| b) &&& ~~~b = a := by
  apply UInt32.eq_of_toBitVec_eq
  apply BitVec.eq_of_getLsbD_eq
  intro i hi
  have hbit : (a.toBitVec &&& b.toBitVec).getLsbD i = (0 : BitVec 32).getLsbD i :=
    congrArg (·.toBitVec.getLsbD i) h
  simp only [BitVec.getLsbD_and, BitVec.ofNat_eq_ofNat, BitVec.getLsbD_zero] at hbit
  simp only [UInt32.toBitVec_and, UInt32.toBitVec_or, UInt32.toBitVec_not, BitVec.getLsbD_and,
    BitVec.getLsbD_or, BitVec.getLsbD_not, hi, decide_true, Bool.true_and]
  revert hbit
  cases a.toBitVec.getLsbD i <;> cases b.toBitVec.getLsbD i <;> simp

theorem bit_and_bit_eq_zero_iff : switch.bit &&& switch'.bit = 0 ↔ switch' ≠ switch := by
  cases switch <;> cases switch' <;> decide

theorem has_turnOn : (m.turnOn switch).has switch' ↔ m.has switch' ∨ switch' = switch := by
  simp only [has, turnOn, TypeSet.or_and_distrib_right, bne_iff_ne, ne_eq, UInt32.or_eq_zero_iff,
    bit_and_bit_eq_zero_iff, Decidable.not_and_iff_not_or_not, Decidable.not_not]

/-- Switches are no types. -/
theorem types_turnOn (m : NetworkMask) (switch : NetworkSwitch) :
    (m.turnOn switch).types = m.types := by
  have hbit : switch.bit &&& TypeSet.full.word = 0 := by cases switch <;> rfl
  rw [types, types, turnOn, TypeSet.or_and_distrib_right, hbit, UInt32.or_zero]

/-- What is turned on may be turned off again. -/
theorem without_turnOn (h : ¬ m.has switch) : (m.turnOn switch).without switch = m := by
  have hzero : m.word &&& switch.bit = 0 := by simpa [has] using h
  rw [without, turnOn, or_and_not_of_and_eq_zero hzero]

/-! ## All of a mask -/

theorem foldl_bit_or (switches : List NetworkSwitch) (word bit : UInt32) :
    switches.foldl (fun word switch => word ||| switch.bit) (word ||| bit)
      = switches.foldl (fun word switch => word ||| switch.bit) word ||| bit := by
  induction switches generalizing word with
  | nil => rfl
  | cons switch switches ih =>
    rw [List.foldl_cons, List.foldl_cons, ← ih, UInt32.or_assoc, UInt32.or_assoc,
      UInt32.or_comm bit]

/-- A switch is turned on wherever it stands among the others. -/
theorem make_append_cons (types : TypeSet) (front back : List NetworkSwitch)
    (switch : NetworkSwitch) :
    make types (front ++ switch :: back) = (make types (front ++ back)).turnOn switch := by
  rw [make, make, turnOn, List.foldl_append, List.foldl_append, List.foldl_cons, foldl_bit_or]

theorem make_cons (types : TypeSet) (switch : NetworkSwitch) (switches : List NetworkSwitch) :
    make types (switch :: switches) = (make types switches).turnOn switch :=
  make_append_cons types [] switches switch

/-- **The switches of a mask** are those that it is made of. -/
theorem has_make (htypes : types.IsKnown) : (make types switches).has switch ↔
    switch ∈ switches := by
  induction switches with
  | nil =>
    have hbit : TypeSet.full.word &&& switch.bit = 0 := by cases switch <;> rfl
    simp [has, make, htypes.and_eq_zero hbit]
  | cons first switches ih => rw [make_cons, has_turnOn, ih, List.mem_cons, or_comm]

/-- **The types of a mask** are those that it is made of. -/
theorem types_make (htypes : types.IsKnown) : (make types switches).types = types := by
  induction switches with
  | nil => exact congrArg TypeSet.mk htypes
  | cons first switches ih => rw [make_cons, types_turnOn, ih]

/-- Every type and every switch. -/
def known : NetworkMask := make .full NetworkSwitch.all

/-- Every bit is a type's or a switch's. -/
def IsKnown (m : NetworkMask) : Prop := m.word &&& known.word = m.word

/-- **A mask that is made** has no other bits. -/
theorem isKnown_make (htypes : types.IsKnown) : (make types switches).IsKnown := by
  induction switches with
  | nil =>
    unfold TypeSet.IsKnown at htypes
    have hknown : TypeSet.full.word &&& known.word = TypeSet.full.word := rfl
    rw [IsKnown, show (make types []).word = types.word from rfl, ← htypes, UInt32.and_assoc,
      hknown]
  | cons first switches ih =>
    unfold IsKnown at ih
    have hbit : first.bit &&& known.word = first.bit := by cases first <;> rfl
    rw [make_cons, IsKnown, turnOn, TypeSet.or_and_distrib_right, ih, hbit]

end NetworkMask

namespace CosmeticMask

variable {switches : List CosmeticSwitch} {switch first : CosmeticSwitch}

/-- Whether a mask has no bits but those of the three options. -/
def IsKnown (m : CosmeticMask) : Prop := m.word >>> 3 = 0

theorem or_and_distrib_right (a b c : UInt8) : (a ||| b) &&& c = (a &&& c) ||| (b &&& c) :=
  UInt8.eq_of_toBitVec_eq BitVec.and_or_distrib_right

theorem bit_and_bit_eq_zero_iff : first.bit &&& switch.bit = 0 ↔ switch ≠ first := by
  cases first <;> cases switch <;> decide

theorem has_or_bit (word : UInt8) : (⟨word ||| first.bit⟩ : CosmeticMask).has switch ↔
    (⟨word⟩ : CosmeticMask).has switch ∨ switch = first := by
  simp only [has, or_and_distrib_right, bne_iff_ne, ne_eq, UInt8.or_eq_zero_iff,
    bit_and_bit_eq_zero_iff, Decidable.not_and_iff_not_or_not, Decidable.not_not]

/-- **The switches of a mask** are those that it is made of. -/
@[simp] theorem has_make : (make switches).has switch ↔ switch ∈ switches := by
  have hall : ∀ word : UInt8, (⟨switches.foldl (fun word switch => word ||| switch.bit) word⟩
      : CosmeticMask).has switch ↔ (⟨word⟩ : CosmeticMask).has switch ∨ switch ∈ switches := by
    induction switches with
    | nil => simp
    | cons first switches ih =>
      intro word
      rw [List.foldl_cons, ih, has_or_bit, List.mem_cons, or_assoc]
  have hnone : (⟨0⟩ : CosmeticMask).has switch = false := by cases switch <;> rfl
  rw [make, hall, hnone, or_iff_right Bool.false_ne_true]

/-- **A mask that is made** has no other bits. -/
theorem isKnown_make (switches : List CosmeticSwitch) : (make switches).IsKnown := by
  have hall : ∀ word : UInt8, word >>> 3 = 0 →
      switches.foldl (fun word switch => word ||| switch.bit) word >>> 3 = 0 := by
    induction switches with
    | nil => exact fun _ hword => hword
    | cons first switches ih =>
      intro word hword
      refine ih _ ?_
      rw [UInt8.shiftRight_or, hword]
      cases first <;> rfl
  exact hall 0 rfl

end CosmeticMask

end Blocklist
