import Mathlib.Data.List.TakeWhile
import Blocklist.Host.Address
/-!
# Hosts — what an address is written with

The readers of an address go past hexadecimal digits, dots and colons only
(`Skips`), so a text with any other character is no address
(`isPart_of_isAddress`).
-/

namespace Blocklist

namespace Address

/-- A character that addresses are written with. -/
def isPart (c : Char) : Bool := isHexadecimal c || c == '.' || c == ':'

/-- What stands before the rest are parts of an address. -/
def Skips (text rest : List Char) : Prop := ∃ front, text = front ++ rest ∧ ∀ c ∈ front, isPart c

variable {text rest last : List Char} {n : Nat}

theorem Skips.refl (text : List Char) : Skips text text := ⟨[], rfl, by simp⟩

theorem Skips.trans (h : Skips text rest) (hrest : Skips rest last) : Skips text last := by
  obtain ⟨front, rfl, hfront⟩ := h
  obtain ⟨back, rfl, hback⟩ := hrest
  refine ⟨front ++ back, (List.append_assoc ..).symm, fun c hc => ?_⟩
  exact (List.mem_append.mp hc).elim (hfront c) (hback c)

theorem skips_dropOpening? {opening : List Char} (hopening : opening.all isPart)
    (h : Text.dropOpening? opening text = some rest) : Skips text rest :=
  ⟨opening, Text.eq_append_of_dropOpening? h, List.all_eq_true.mp hopening⟩

theorem skips_dropWhile {p : Char → Bool} (hp : ∀ c, p c → isPart c) (text : List Char) :
    Skips text (text.dropWhile p) :=
  ⟨text.takeWhile p, List.takeWhile_append_dropWhile.symm,
    fun c hc => hp c (List.mem_takeWhile_imp hc)⟩

theorem isPart_of_isHexadecimal {c : Char} (h : isHexadecimal c) : isPart c := by
  simp [isPart, h]

theorem isPart_of_isDecimal {c : Char} (h : isDecimal c) : isPart c :=
  isPart_of_isHexadecimal (by simp [isHexadecimal, h])

/-! ## The readers -/

theorem skips_afterByte? (h : afterByte? text = some rest) : Skips text rest := by
  obtain ⟨-, h⟩ := Option.ite_none_left_eq_some.mp h
  cases h
  exact skips_dropWhile (fun _ => isPart_of_isDecimal) _

theorem skips_afterDotted? (h : afterDotted? n text = some rest) : Skips text rest := by
  induction n generalizing text with
  | zero =>
    cases h
    exact Skips.refl _
  | succ n ih =>
    obtain ⟨behindDot, hdot, h⟩ := Option.bind_eq_some_iff.mp h
    obtain ⟨behindByte, hbyte, h⟩ := Option.bind_eq_some_iff.mp h
    have hbyte : Skips behindDot behindByte := skips_afterByte? hbyte
    exact (skips_dropOpening? (by decide) hdot).trans (hbyte.trans (ih h))

theorem skips_afterVersion4? (h : afterVersion4? text = some rest) : Skips text rest := by
  obtain ⟨behindByte, hbyte, h⟩ := Option.bind_eq_some_iff.mp h
  exact (skips_afterByte? hbyte).trans (skips_afterDotted? h)

theorem skips_afterGroup? (h : afterGroup? text = some rest) : Skips text rest := by
  obtain ⟨-, h⟩ := Option.ite_none_left_eq_some.mp h
  cases h
  exact skips_dropWhile (fun _ => isPart_of_isHexadecimal) _

theorem skips_readGroups (room : Nat) (first : Bool) (text : List Char) :
    Skips text (readGroups room first text).rest := by
  induction room generalizing first text with
  | zero => exact Skips.refl text
  | succ room ih =>
    rw [readGroups]
    split
    · exact Skips.refl text
    · next body hbody =>
      have hcolon : Skips text body := by
        cases first with
        | true =>
          cases hbody
          exact Skips.refl text
        | false => exact skips_dropOpening? (by decide) hbody
      split
      · next rest hdotted =>
        obtain ⟨-, hdotted⟩ := Option.ite_none_left_eq_some.mp hdotted
        exact hcolon.trans (skips_afterVersion4? hdotted)
      · split
        · exact Skips.refl text
        · next rest hgroup => exact hcolon.trans ((skips_afterGroup? hgroup).trans (ih false rest))

theorem skips_afterVersion6? (h : afterVersion6? text = some rest) : Skips text rest := by
  have hhead : Skips text (readGroups 8 true text).rest := skips_readGroups 8 true text
  rw [afterVersion6?] at h
  split at h
  · cases h
    exact hhead
  · split at h
    · cases h
    · obtain ⟨behind, hcolons, rfl⟩ := Option.map_eq_some_iff.mp h
      have hpair := skips_dropOpening? (by decide) hcolons
      exact hhead.trans (hpair.trans (skips_readGroups _ _ _))

end Address

open Address

/-- **An address is all parts of addresses.** -/
theorem Host.isPart_of_isAddress {text : List Char} (h : Host.isAddress text) :
    ∀ c ∈ text, isPart c := by
  have hwhole : Skips text [] := by
    rw [Host.isAddress] at h
    split at h
    · next rest h4 =>
      cases List.isEmpty_iff.mp h
      exact skips_afterVersion4? h4
    · exact skips_afterVersion6? (eq_of_beq h)
  obtain ⟨front, rfl, hfront⟩ := hwhole
  simpa using hfront

end Blocklist
