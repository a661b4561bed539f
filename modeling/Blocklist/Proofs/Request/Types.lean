import Blocklist.Proofs.Filter.Mask
/-!
# Requests — members of a set of types

Every type has a bit of its own (`has_ofList`), so a set goes by its members:
those of a difference are those of the first set that the second does not have
(`has_without`), and a set of known types is empty where it has none
(`isEmpty_iff`).
-/

namespace Blocklist

namespace TypeSet

variable {a b : TypeSet} {type : RequestType} {types : List RequestType}

/-- The place of a type's bit. -/
def place (type : RequestType) : Nat := RequestType.all.idxOf type

theorem toBitVec_bit (type : RequestType) : type.bit.toBitVec = BitVec.twoPow 32 (place type) := by
  cases type <;> rfl

/-- **A member is a bit that is set.** -/
theorem has_eq_getLsbD (a : TypeSet) (type : RequestType) :
    a.has type = a.word.toBitVec.getLsbD (place type) := by
  have hword : a.word &&& type.bit = 0 ↔
      a.word.toBitVec &&& BitVec.twoPow 32 (place type) = 0#32 := by
    rw [← toBitVec_bit, ← UInt32.toBitVec_inj, UInt32.toBitVec_and]
    rfl
  have hpow : BitVec.twoPow 32 (place type) ≠ 0#32 := by cases type <;> decide
  rw [has, meets, Bool.eq_iff_iff, bne_iff_ne, ne_eq, hword, BitVec.and_twoPow]
  cases a.word.toBitVec.getLsbD (place type) <;> simp [hpow]

theorem has_without (a b : TypeSet) (type : RequestType) :
    (a.without b).has type = (a.has type && !b.has type) := by
  have hplace : place type < 32 := by cases type <;> decide
  simp [has_eq_getLsbD, without, hplace]

@[simp] theorem has_empty (type : RequestType) : empty.has type = false := by
  cases type <;> rfl

@[simp] theorem empty_union (a : TypeSet) : empty.union a = a := by
  simp [union, empty]

@[simp] theorem has_full (type : RequestType) : full.has type := by
  cases type <;> rfl

/-- What a set of some types has in common with another is one of these types. -/
theorem ofList_meets : (ofList types).meets a ↔ ∃ type ∈ types, a.has type := by
  have hfold : ∀ start : TypeSet,
      (types.foldl (fun set type => set.union ⟨type.bit⟩) start).meets a ↔
        start.meets a ∨ ∃ type ∈ types, a.has type := by
    induction types with
    | nil => simp
    | cons first types ih =>
      intro start
      rw [List.foldl_cons, ih, meets_union, Bool.or_eq_true, meets_comm ⟨first.bit⟩, or_assoc]
      simp [has]
  have hempty : empty.meets a = false := by simp [meets, empty]
  rw [ofList, hfold, hempty, or_iff_right Bool.false_ne_true]

/-- **The members of a set** are those that it is made of. -/
theorem has_ofList : (ofList types).has type ↔ type ∈ types := by
  have hsingle : ∀ member : RequestType, (⟨type.bit⟩ : TypeSet).has member ↔ type = member := by
    intro member
    cases member <;> cases type <;> decide
  rw [has, ofList_meets]
  simp only [hsingle]
  simp

@[simp] theorem isEmpty_union (a b : TypeSet) : (a.union b).isEmpty = (a.isEmpty && b.isEmpty) := by
  rw [Bool.eq_iff_iff]
  simp [isEmpty, union, UInt32.or_eq_zero_iff]

/-- **A set of known types is empty** where it has no member. -/
theorem isEmpty_iff (ha : a.IsKnown) : a.isEmpty ↔ ∀ type, ¬ a.has type := by
  have hall : ∀ type, type ∈ RequestType.all := by
    intro type
    cases type <;> decide
  have hmeets : a.meets full ↔ ∃ type, a.has type := by
    rw [meets_comm, full_eq_ofList_all, ofList_meets]
    simp [hall]
  unfold IsKnown at ha
  rw [← not_exists, ← hmeets, meets, ha, isEmpty]
  simp

end TypeSet

end Blocklist
