import Mathlib.Data.List.TakeWhile
import Blocklist.Proofs.Host.Normal
import Blocklist.Proofs.Text.Cut
/-!
# Text — cutting a text in lower case

What is no letter is left alone by lower case, and nothing else becomes it.
So where a text is cut at such a character, it may be put into lower case
before or after.
-/

namespace Blocklist

namespace Text

variable {text : List Char} {sep c : Char}

@[simp] theorem lower_append (front back : List Char) :
    lower (front ++ back) = lower front ++ lower back :=
  List.map_append

/-- What is in lower case stays as it is. -/
theorem IsLower.lower_eq (h : IsLower text) : lower text = text := by
  have hfixed : ∀ c ∈ text, c.toLower = c := by
    intro c hc
    have hupper := h c hc
    rw [isUpper_iff] at hupper
    apply Char.toNat_inj.mp
    rw [toNat_toLower, if_neg hupper]
  exact (List.map_congr_left hfixed).trans (List.map_id'' (fun _ => rfl) _)

@[simp] theorem lower_lower (text : List Char) : lower (lower text) = lower text :=
  (isLower_lower text).lower_eq

theorem char_isLower_iff : c.isLower ↔ 97 ≤ c.toNat ∧ c.toNat ≤ 122 :=
  Bool.and_eq_true_iff.trans (and_congr decide_eq_true_iff decide_eq_true_iff)

theorem isAlphanum_iff : c.isAlphanum ↔ (65 ≤ c.toNat ∧ c.toNat ≤ 90)
    ∨ (97 ≤ c.toNat ∧ c.toNat ≤ 122) ∨ (48 ≤ c.toNat ∧ c.toNat ≤ 57) := by
  have hdigit : c.isDigit ↔ 48 ≤ c.toNat ∧ c.toNat ≤ 57 :=
    Bool.and_eq_true_iff.trans (and_congr decide_eq_true_iff decide_eq_true_iff)
  rw [show c.isAlphanum = (c.isUpper || c.isLower || c.isDigit) from rfl, Bool.or_eq_true,
    Bool.or_eq_true, isUpper_iff, char_isLower_iff, hdigit, or_assoc]

@[simp] theorem isAlphanum_toLower (c : Char) : c.toLower.isAlphanum = c.isAlphanum := by
  rw [Bool.eq_iff_iff, isAlphanum_iff, isAlphanum_iff, toNat_toLower]
  split <;> omega

/-- Whether a character is no letter of ASCII. -/
def isCaseless (c : Char) : Bool := !c.isAlpha

theorem isCaseless_iff : isCaseless c ↔
    ¬ (65 ≤ c.toNat ∧ c.toNat ≤ 90) ∧ ¬ (97 ≤ c.toNat ∧ c.toNat ≤ 122) := by
  rw [show isCaseless c = !(c.isUpper || c.isLower) from rfl, Bool.not_eq_true',
    Bool.or_eq_false_iff, Bool.eq_false_iff, Bool.eq_false_iff, ne_eq, ne_eq, isUpper_iff,
    char_isLower_iff]

/-- **Nothing becomes such a character**, and none becomes another. -/
theorem toLower_eq_iff (hsep : isCaseless sep) : c.toLower = sep ↔ c = sep := by
  obtain ⟨hupper, hlower⟩ := isCaseless_iff.mp hsep
  rw [← Char.toNat_inj, ← Char.toNat_inj, toNat_toLower]
  split <;> omega

theorem toLower_beq (hsep : isCaseless sep) (c : Char) : (c.toLower == sep) = (c == sep) := by
  rw [Bool.eq_iff_iff, beq_iff_eq, beq_iff_eq, toLower_eq_iff hsep]

theorem mem_lower_iff (hc : isCaseless c) : c ∈ lower text ↔ c ∈ text := by
  rw [lower, List.mem_map]
  simp only [toLower_eq_iff hc]
  simp

/-! ## Cuts -/

theorem cut?_lower (hsep : isCaseless sep) (text : List Char) :
    cut? sep (lower text) = (cut? sep text).map fun parts => (lower parts.1, lower parts.2) :=
  cut?_map (fun _ => toLower_eq_iff hsep) text

theorem cutLast?_lower (hsep : isCaseless sep) (text : List Char) :
    cutLast? sep (lower text)
      = (cutLast? sep text).map fun parts => (lower parts.1, lower parts.2) :=
  cutLast?_map (fun _ => toLower_eq_iff hsep) text

theorem dropOpening?_lower {opening : List Char} (hopening : ∀ o ∈ opening, isCaseless o)
    (text : List Char) :
    dropOpening? opening (lower text) = (dropOpening? opening text).map lower :=
  dropOpening?_map (fun o ho _ => toLower_eq_iff (hopening o ho)) text

variable {p : Char → Bool}

theorem takeWhile_lower (hp : ∀ c : Char, p c.toLower = p c) (text : List Char) :
    (lower text).takeWhile p = lower (text.takeWhile p) := by
  rw [lower, List.takeWhile_map]
  exact congrArg (fun q => lower (text.takeWhile q)) (funext hp)

theorem dropWhile_lower (hp : ∀ c : Char, p c.toLower = p c) (text : List Char) :
    (lower text).dropWhile p = lower (text.dropWhile p) := by
  rw [lower, List.dropWhile_map]
  exact congrArg (fun q => lower (text.dropWhile q)) (funext hp)

end Text

end Blocklist
