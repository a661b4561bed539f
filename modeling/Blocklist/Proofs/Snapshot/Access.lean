import Blocklist.Codebook.Basic
import Blocklist.Proofs.Access
import Blocklist.Proofs.Positions
/-!
# Snapshots — decoding by index

The codes of a text stay where they are, and every access names the places
that it takes. Decoding goes no further than its codes (`Guarded.decode_eq`).
-/

namespace Blocklist

namespace Guarded

/-- The bytes that the codes from a position on stand for. -/
def decodeFrom (entries : List (List UInt8)) (codes : List UInt8) (position : Nat) :
    Guarded CodebookError (List UInt8) := do
  if _h : position < codes.length then
    let code ← Access.byteAt position codes
    if code == Codebook.escapeByte then
      match codes[position + 1]? with
      | none => throw (.truncated position)
      | some b => return b :: (← decodeFrom entries codes (position + 2))
    else if code == Codebook.escapeRun then
      match codes[position + 1]? with
      | none => throw (.truncated position)
      | some n =>
        let stop := position + 2 + (n.toNat + 1)
        if codes.length < stop then throw (.truncated position)
        return (← Access.slice (position + 2) stop codes) ++ (← decodeFrom entries codes stop)
    else
      match entries[code.toNat]? with
      | none => throw (.unknownCode code position)
      | some entry => return entry ++ (← decodeFrom entries codes (position + 1))
  else return []
termination_by codes.length - position

/-- The text that codes stand for. -/
def decode (book : Codebook) (codes : List UInt8) : Guarded CodebookError String := do
  match Text.ofUtf8? (← decodeFrom book.entries codes 0) with
  | some text => return text
  | none => throw .invalidUtf8

/-- **Decoding stays within the codes**: it goes on only where there is one, and an escape that
announces more than there is, is refused before that is taken. -/
theorem decodeFrom_eq (entries : List (List UInt8)) (codes : List UInt8) (position : Nat) :
    decodeFrom entries codes position
      = ofExcept (Codebook.decodeFrom entries position (codes.drop position)) := by
  -- on the codes that are left, as each step takes one at least
  induction hleft : codes.length - position using Nat.strongRecOn generalizing position with
  | ind left ih =>
    subst hleft
    rw [decodeFrom]
    by_cases hlt : position < codes.length
    · rw [dif_pos hlt, Access.byteAt_of_lt hlt, List.drop_eq_getElem_cons hlt,
        Codebook.decodeFrom.eq_def, liftM_ok_bind]
      dsimp only
      split
      · cases hrest : codes.drop (position + 1) with
        | nil =>
          rw [List.getElem?_eq_none (List.drop_eq_nil_iff.mp hrest)]
          rfl
        | cons b rest =>
          obtain ⟨hb, rfl⟩ := getElem?_of_drop_eq_cons hrest
          rw [hb]
          dsimp only
          rw [ih _ (by omega) (position + 2) rfl, ofExcept_bind]
          rfl
      split
      · cases hrest : codes.drop (position + 1) with
        | nil =>
          rw [List.getElem?_eq_none (List.drop_eq_nil_iff.mp hrest)]
          rfl
        | cons n rest =>
          obtain ⟨hn, rfl⟩ := getElem?_of_drop_eq_cons hrest
          rw [hn]
          dsimp only
          by_cases hroom : codes.length < position + 2 + (n.toNat + 1)
          · rw [if_pos hroom, if_pos (by rw [List.length_drop]; omega)]
            rfl
          · rw [if_neg hroom, if_neg (by rw [List.length_drop]; omega),
              Access.slice_of_le (by omega) (by omega), liftM_ok_bind, List.drop_drop,
              ih _ (by omega) _ rfl, ofExcept_bind, Nat.add_sub_cancel_left]
            rfl
      · cases entries[codes[position].toNat]? with
        | none => rfl
        | some entry =>
          dsimp only
          rw [ih _ (by omega) (position + 1) rfl, ofExcept_bind]
          rfl
    · rw [dif_neg hlt, List.drop_eq_nil_of_le (Nat.not_lt.mp hlt), Codebook.decodeFrom]
      rfl

theorem decode_eq (book : Codebook) (codes : List UInt8) :
    decode book codes = ofExcept (book.decode codes) := by
  rw [decode, decodeFrom_eq, List.drop_zero, Codebook.decode, ofExcept_bind]
  refine congrArg (_ >>= ·) (funext fun bytes => ?_)
  cases Text.ofUtf8? bytes <;> rfl

end Guarded

end Blocklist
