import Blocklist.Hash.FilterId
/-!
# Hashes — what a filter id tells apart

An id is rolled over the mask and the joined text of the fields: where one
field ends and the next begins leaves no trace (`ofFields_eq_foldl`). No
character absorbed is lost, so a difference in one place, of the masks or of a
single character, always shows (`ofFields_ne_of_differsOnce`).
-/

namespace Blocklist

namespace FilterId

variable {mask mask' : UInt32} {fields fields' : List (Option String)}

/-- The text of some fields, one after the other; an absent field has none. -/
def joined (fields : List (Option String)) : List Char :=
  fields.flatMap fun field => (field.map String.toList).getD []

theorem absorb_eq_foldl (state : UInt32) (field : Option String) :
    absorb state field = ((field.map String.toList).getD []).foldl step state := by
  cases field <;> rfl

theorem foldl_absorb_eq_foldl (state : UInt32) (fields : List (Option String)) :
    fields.foldl absorb state = (joined fields).foldl step state := by
  induction fields generalizing state with
  | nil => rfl
  | cons field fields ih =>
    rw [List.foldl_cons, ih, absorb_eq_foldl, joined, joined, List.flatMap_cons, List.foldl_append]

/-- **The id of a filter is rolled over its joined text.** -/
theorem ofFields_eq_foldl (mask : UInt32) (fields : List (Option String)) :
    ofFields mask fields = (joined fields).foldl step (start mask) :=
  foldl_absorb_eq_foldl (start mask) fields

/-! ## No step loses anything -/

/-- The number that undoes a multiplication by 33. -/
def inverse33 : UInt32 := 1041204193

theorem mul_33_mul_inverse33 (a : UInt32) : a * 33 * inverse33 = a := by
  rw [UInt32.mul_assoc, show (33 : UInt32) * inverse33 = 1 from rfl, UInt32.mul_one]

theorem step_injective (c : Char) : Function.Injective (step · c) := by
  intro a b h
  have hmul : a * 33 = b * 33 := (UInt32.xor_left_inj c.val).mp h
  rw [← mul_33_mul_inverse33 a, hmul, mul_33_mul_inverse33]

theorem foldl_step_injective (text : List Char) : Function.Injective (text.foldl step) := by
  induction text with
  | nil => exact fun _ _ h => h
  | cons c text ih => exact fun a b h => step_injective c (ih h)

theorem step_ne_of_char_ne (state : UInt32) {c d : Char} (h : c ≠ d) :
    step state c ≠ step state d := by
  intro heq
  exact h (Char.val_inj.mp ((UInt32.xor_right_inj (state * 33)).mp heq))

/-- Whether two masks with fields differ in one place only: in the masks, or in one character of the
joined texts. -/
def DiffersOnce (mask mask' : UInt32) (fields fields' : List (Option String)) : Prop :=
  mask ≠ mask' ∧ joined fields = joined fields' ∨
  mask = mask' ∧ ∃ front c d back, c ≠ d ∧ joined fields = front ++ c :: back
    ∧ joined fields' = front ++ d :: back

/-- **A difference in one place makes another id.** -/
theorem ofFields_ne_of_differsOnce (h : DiffersOnce mask mask' fields fields') :
    ofFields mask fields ≠ ofFields mask' fields' := by
  rw [ofFields_eq_foldl, ofFields_eq_foldl]
  rcases h with ⟨hmask, htext⟩ | ⟨rfl, front, c, d, back, hchar, htext, htext'⟩
  · rw [htext]
    intro heq
    exact hmask ((UInt32.xor_right_inj seed).mp (foldl_step_injective _ heq))
  · rw [htext, htext', List.foldl_append, List.foldl_append, List.foldl_cons, List.foldl_cons]
    intro heq
    exact step_ne_of_char_ne _ hchar (foldl_step_injective back heq)

end FilterId

end Blocklist
